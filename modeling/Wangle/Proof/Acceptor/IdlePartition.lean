import Wangle.Proof.Acceptor.Callbacks
import Wangle.Spec.Roster

/-!
# Busy and idle connections

`conns_` with `idleIterator_` refines the roster of the events that the manager has seen.
-/

namespace Wangle.Proof.Acceptor
open Wangle.Acceptor Wangle.Intrusive Wangle.Spec Wangle.Transition ConnectionManager

variable {Conn : Type} [DecidableEq Conn]

def Partitions (s : ConnectionManager Conn) : Prop :=
  Divides s.conns s.idleIterator (Roster.replay s.trace).busy (Roster.replay s.trace).idle

def Regular (s : ConnectionManager Conn) : Op Conn → Prop
  | .onDeactivated c => c ∉ onward s.idleIterator s.conns
  | .dropIdleConnections _ _ reaction => ∀ c, c ∈ reaction c
  | _ => True

theorem replay_calls {trace calls : List (Event Conn)} (e : Event Conn)
    (quiet : ∀ call ∈ calls, ∀ r : Roster Conn, r.after call = r) :
    Roster.replay (trace ++ e :: calls) = (Roster.replay trace).after e := by
  rw [Roster.replay_append, List.foldl_cons]
  induction calls with
  | nil => rfl
  | cons call calls ih =>
      rw [List.foldl_cons, quiet call List.mem_cons_self]
      exact ih fun x member => quiet x (List.mem_cons_of_mem _ member)

theorem removeConnection_replay {s : ConnectionManager Conn} {c : Conn} (managed : s.isManaged c = true) :
    Roster.replay (s.removeConnection c).trace = (Roster.replay s.trace).after (.removed c) := by
  obtain ⟨calls, equal, observer⟩ := removeConnection_eq managed
  rw [equal]
  refine replay_calls _ fun call member r => ?_
  rcases observer call member with rfl | rfl <;> rfl

theorem removeConnection_divides {s : ConnectionManager Conn} (listed : Listed s) {c : Conn}
    (managed : s.isManaged c = true) {before after : List Conn}
    (divides : Divides s.conns s.idleIterator before after) :
    Divides (s.removeConnection c).conns (s.removeConnection c).idleIterator (before.erase c) (after.erase c) := by
  obtain ⟨calls, equal, -⟩ := removeConnection_eq managed
  rw [equal]
  exact divides.erase listed.nodup c

theorem Effect.partitions {s s' : ConnectionManager Conn} (effect : Effect s s') (listed : Listed s)
    (parts : Partitions s) : Partitions s' := by
  cases effect with
  | remove c managed =>
      unfold Partitions
      rw [removeConnection_replay managed]
      exact removeConnection_divides listed managed parts
  | notify c fresh =>
      unfold Partitions
      rw [record, Roster.replay_concat]
      exact parts
  | close c due =>
      unfold Partitions
      rw [record, Roster.replay_concat]
      exact parts
  | drop c =>
      unfold Partitions
      rw [record, Roster.replay_concat]
      exact parts

theorem Effects.partitions {s s' : ConnectionManager Conn} (effects : Effects s s') (listed : Listed s)
    (parts : Partitions s) : Partitions s' := by
  induction effects with
  | refl => exact parts
  | tail before effect ih => exact effect.partitions (Effects.listed before listed) ih

/-! ## Dropping idle connections -/

/-- The idle iterator has left `c`, the connection that has been idle longest. -/
structure Skipped (c : Conn) (s : ConnectionManager Conn) (busy idle : List Conn) : Prop where
  busy_eq : (Roster.replay s.trace).busy = busy
  idle_eq : (Roster.replay s.trace).idle = c :: idle
  divides : Divides s.conns s.idleIterator (busy ++ [c]) idle

theorem Skipped.remove_self {c : Conn} {s : ConnectionManager Conn} {busy idle : List Conn} (listed : Listed s)
    (skipped : Skipped c s busy idle) : Partitions (s.removeConnection c) := by
  obtain ⟨busy_eq, idle_eq, divides⟩ := skipped
  have member : c ∈ s.conns := by rw [divides.eq]; simp
  have managed := (listed.managed c).mpr member
  have nodup := listed.nodup
  rw [divides.eq, List.append_assoc, List.singleton_append] at nodup
  have fresh : c ∉ busy := fun front => List.disjoint_of_nodup_append nodup front List.mem_cons_self
  have parts := removeConnection_divides listed managed divides
  rw [List.erase_append_right _ fresh, List.erase_cons_head, List.append_nil] at parts
  unfold Partitions
  rw [removeConnection_replay managed]
  simpa only [Roster.after, busy_eq, idle_eq, List.erase_cons_head, List.erase_of_not_mem fresh,
    List.erase_of_not_mem (List.nodup_cons.mp (List.nodup_append.mp nodup).2.1).1] using parts

theorem Skipped.remove_other {c x : Conn} {s : ConnectionManager Conn} {busy idle : List Conn} (listed : Listed s)
    (skipped : Skipped c s busy idle) (other : x ≠ c) :
    ∃ busy idle, Skipped c (s.removeConnection x) busy idle := by
  cases managed : s.isManaged x with
  | false => exact ⟨busy, idle, by rwa [removeConnection_of_not_managed managed]⟩
  | true =>
      obtain ⟨busy_eq, idle_eq, divides⟩ := skipped
      have roster := removeConnection_replay managed
      refine ⟨busy.erase x, idle.erase x, ?_, ?_, ?_⟩
      · rw [roster, Roster.after, busy_eq]
      · rw [roster, Roster.after, idle_eq, List.erase_cons_tail (by simpa using other.symm)]
      · have parts := removeConnection_divides listed managed divides
        rwa [erase_append_of_not_mem (by simpa using other)] at parts

theorem Skipped.removeConnections {c : Conn} {s : ConnectionManager Conn} {busy idle cs : List Conn}
    (listed : Listed s) (skipped : Skipped c s busy idle) (member : c ∈ cs) :
    Partitions (s.removeConnections cs) := by
  induction cs generalizing s busy idle with
  | nil => cases member
  | cons x cs ih =>
      by_cases same : x = c
      · subst same
        exact (removeConnections_effects cs _).partitions (listed.removeConnection x) (skipped.remove_self listed)
      · obtain ⟨busy', idle', skipped'⟩ := skipped.remove_other listed same
        exact ih (listed.removeConnection x) skipped' ((List.mem_cons.mp member).resolve_left (Ne.symm same))

theorem dropIdle_partitions {reaction : Reaction Conn} (selfless : ∀ c, c ∈ reaction c) {s : ConnectionManager Conn}
    {c : Conn} (listed : Listed s) (parts : Partitions s) (stands : s.idleIterator = some c) :
    Partitions (dropConnection reaction c { s with idleIterator := next c s.conns }) := by
  cases idle : (Roster.replay s.trace).idle with
  | nil =>
      have absent := parts.stands
      rw [stands, idle] at absent
      cases absent
  | cons x rest =>
      have head := parts.stands
      rw [stands, idle, List.head?_cons, Option.some.injEq] at head
      subst head
      have eq := parts.eq
      rw [idle] at eq
      have nodup := listed.nodup
      rw [eq] at nodup
      have fresh : c ∉ (Roster.replay s.trace).busy := fun front =>
        List.disjoint_of_nodup_append nodup front List.mem_cons_self
      have roster : Roster.replay (s.trace ++ [.dropConnection c]) = Roster.replay s.trace :=
        Roster.replay_concat _ _
      have skipped : Skipped c (record (.dropConnection c) { s with idleIterator := next c s.conns })
          (Roster.replay s.trace).busy rest := by
        refine ⟨congrArg _ roster, (congrArg _ roster).trans idle, ?_, ?_⟩
        · rw [List.append_assoc]
          exact eq
        · simp only [record]
          rw [next, eq, onward_cons fresh]
          rfl
      exact skipped.removeConnections ⟨listed.nodup, listed.managed⟩ (selfless c)

/-! ## Dropping all connections -/

def Rostered (s : ConnectionManager Conn) : Prop := s.conns = (Roster.replay s.trace).all

theorem erase_roster {l busy idle : List Conn} (nodup : l.Nodup) (eq : l = busy ++ idle) (c : Conn) :
    l.erase c = busy.erase c ++ idle.erase c :=
  ((Divides.mk eq rfl).erase nodup c).eq

theorem Effects.keeps {s s' : ConnectionManager Conn} (effects : Effects s s') (listed : Listed s)
    (rostered : Rostered s) :
    Rostered s' ∧ ∃ kept, Roster.replay s'.trace = (Roster.replay s.trace).keep kept := by
  induction effects with
  | refl => exact ⟨rostered, fun _ => true, (Roster.keep_true _).symm⟩
  | @tail m s' before effect ih =>
      have listed' := Effects.listed before listed
      obtain ⟨rostered', kept, left⟩ := ih
      cases effect with
      | remove c managed =>
          have roster := removeConnection_replay managed
          constructor
          · unfold Rostered
            rw [roster, removeConnection_conns listed']
            exact erase_roster listed'.nodup rostered' c
          · have nodup := listed'.nodup
            rw [rostered'] at nodup
            exact ⟨_, by rw [roster, Roster.after_removed nodup, left, Roster.keep_keep]⟩
      | notify c fresh =>
          unfold Rostered
          rw [record, Roster.replay_concat]
          exact ⟨rostered', kept, left⟩
      | close c due =>
          unfold Rostered
          rw [record, Roster.replay_concat]
          exact ⟨rostered', kept, left⟩
      | drop c =>
          unfold Rostered
          rw [record, Roster.replay_concat]
          exact ⟨rostered', kept, left⟩

theorem dropAllLoop_rostered (reaction : Reaction Conn) {n : Nat} {s : ConnectionManager Conn} (listed : Listed s)
    (rostered : Rostered s) : Rostered (dropAllLoop reaction n s) := by
  induction n generalizing s with
  | zero => exact rostered
  | succ n ih =>
      rw [dropAllLoop]
      split
      · exact rostered
      · rename_i c conns front
        have popped := popped_listed listed front
        have effects := dropConnection_effects reaction c
          (record (.removed c) (setManaged c false { s with conns := conns }))
        refine ih (effects.listed popped) (effects.keeps popped ?_).1
        have erased := erase_roster listed.nodup rostered c
        rw [front, List.erase_cons_head] at erased
        unfold Rostered
        rw [record, Roster.replay_concat]
        exact erased

theorem dropAllConnections_replay (reaction : Reaction Conn) {s : ConnectionManager Conn} (listed : Listed s)
    (parts : Partitions s) :
    (s.dropAllConnections reaction).conns = [] ∧ Roster.replay (s.dropAllConnections reaction).trace = {} := by
  have start : Listed s.stopDrainingForShutdown := ⟨listed.nodup, listed.managed⟩
  have rostered := dropAllLoop_rostered reaction (n := s.conns.length) start parts.eq
  obtain ⟨-, empty, -⟩ := dropAllLoop_spec reaction (n := s.conns.length) start (Nat.le_refl _)
  obtain ⟨busy, idle⟩ := List.append_eq_nil_iff.mp (rostered.symm.trans empty)
  have none : Roster.replay (dropAllLoop reaction s.conns.length s.stopDrainingForShutdown).trace = {} :=
    congrArg₂ Roster.mk busy idle
  unfold dropAllConnections
  simp only
  split
  · exact ⟨empty, (Roster.replay_concat ..).trans none⟩
  · exact ⟨empty, none⟩

theorem dropAllConnections_partitions (reaction : Reaction Conn) {s : ConnectionManager Conn} (listed : Listed s)
    (parts : Partitions s) : Partitions (s.dropAllConnections reaction) := by
  obtain ⟨conns, roster⟩ := dropAllConnections_replay reaction listed parts
  unfold Partitions
  rw [conns, roster]
  refine ⟨rfl, ?_⟩
  unfold dropAllConnections
  simp only
  split <;> rfl

/-! ## Every step -/

theorem inserted_replay (c : Conn) (s : ConnectionManager Conn) : Roster.replay (inserted c s).trace =
    if s.isManaged c then Roster.replay s.trace else (Roster.replay s.trace).after (.added c) := by
  unfold inserted
  split
  · rfl
  · obtain ⟨calls, equal, observer⟩ := insertConnection_eq c s
    rw [equal]
    exact replay_calls _ fun call member r => by rw [observer call member]; rfl

theorem inserted_partitions {s : ConnectionManager Conn} (parts : Partitions s) (c : Conn) :
    Partitions (inserted c s) := by
  unfold Partitions
  rw [inserted_replay]
  unfold inserted
  split
  · exact parts
  · obtain ⟨calls, equal, -⟩ := insertConnection_eq c s
    rw [equal]
    exact parts.push_front c

theorem step_partitions {s s' : ConnectionManager Conn} {op : Op Conn} (wf : WellFormed s) (parts : Partitions s)
    (regular : Regular s op) (taken : s.step op = .ok s') : Partitions s' := by
  have listed := wf.toListed
  cases stepCase taken with
  | turn enters done =>
      obtain ⟨-, seen, rest, m, -, drained, finished⟩ := drainConnections_ok (enters.wellFormed wf) done
      have through := drained.effects.partitions (enters.wellFormed wf).toListed
        (by cases enters <;> first | exact parts | (unfold DrainHelper.beginDrain; split <;> exact parts))
      cases finished <;> exact through
  | initiateIgnored busy => exact parts
  | drainIgnored busy => exact parts
  | timeoutIgnored early => exact parts
  | @add c reaction =>
      have greeting := (greeted_effects reaction c s).partitions (inserted_wellFormed wf c).toListed
        (inserted_partitions parts c)
      rw [addConnection_eq]
      split <;> exact greeting
  | remove => exact (removeConnection_effects _ s).partitions listed parts
  | @activate c member =>
      have moved := (parts.erase listed.nodup c).push_front c
      unfold Partitions
      rw [record, Roster.replay_concat]
      exact moved
  | @deactivate c member =>
      have elsewhere : s.idleIterator ≠ some c := by
        intro stands
        have last := regular
        rw [Regular, parts.onward_eq listed.nodup] at last
        rw [parts.stands] at stands
        exact last (List.mem_of_mem_head? stands)
      have erased := parts.erase listed.nodup c
      rw [if_neg elsewhere] at erased
      unfold Partitions
      rw [record, Roster.replay_concat]
      simp only
      split
      · rename_i ends
        rw [ends] at erased
        have empty := List.head?_eq_none_iff.mp erased.stands.symm
        simp only [Roster.after, empty, List.nil_append]
        exact ⟨by rw [erased.eq, empty, List.append_nil], rfl⟩
      · rename_i inside
        exact erased.push_back inside c
  | pendingAdd pending linked =>
      exact (fireCloseWhenIdle_effects _ _ (linkedAdd s _)).partitions ⟨listed.nodup, listed.managed⟩ parts
  | pendingAddUnlinked pending unlinked => exact parts
  | dropConnections => exact (dropConnections_effects _ _ s).partitions ⟨listed.nodup, listed.managed⟩ parts
  | dropAll => exact dropAllConnections_partitions _ listed parts
  | @dropIdle num idleTime reaction =>
      have turn (m : ConnectionManager Conn) (c : Conn) (stands : m.idleIterator = some c)
          (holds : Listed m ∧ Partitions m) :
          Listed (dropConnection reaction c { m with idleIterator := next c m.conns }) ∧
            Partitions (dropConnection reaction c { m with idleIterator := next c m.conns }) :=
        ⟨(dropConnection_effects reaction c _).listed ⟨holds.1.nodup, holds.1.managed⟩,
          dropIdle_partitions regular holds.1 holds.2 stands⟩
      exact (dropIdleConnections_kept (P := fun m => Listed m ∧ Partitions m) turn idleTime num ⟨listed, parts⟩).2

/-! ## The roster of the operations -/

theorem step_leaves {s s' : ConnectionManager Conn} {op : Op Conn} (wf : WellFormed s) (parts : Partitions s)
    (taken : s.step op = .ok s') :
    ∃ kept, Roster.replay s'.trace = ((Roster.replay s.trace).asked s.isManaged op).keep kept := by
  have listed := wf.toListed
  have stay : Roster.replay s.trace = (Roster.replay s.trace).keep fun _ => true := (Roster.keep_true _).symm
  cases stepCase taken with
  | turn enters done =>
      obtain ⟨-, seen, rest, m, -, drained, finished⟩ := drainConnections_ok (enters.wellFormed wf) done
      have entered := enters.alike
      have rostered : Rostered _ := entered.conns.trans (parts.eq.trans (by rw [entered.trace]; rfl))
      obtain ⟨-, kept, left⟩ := drained.effects.keeps (enters.wellFormed wf).toListed rostered
      refine ⟨kept, ?_⟩
      rw [finished.same.2.2.1, left, entered.trace]
      cases enters <;> rfl
  | initiateIgnored busy => exact ⟨_, stay⟩
  | drainIgnored busy => exact ⟨_, stay⟩
  | timeoutIgnored early => exact ⟨_, stay⟩
  | @add c reaction =>
      have greeting := (greeted_effects reaction c s).keeps (inserted_wellFormed wf c).toListed
        (inserted_partitions parts c).eq
      rw [Roster.asked, ← inserted_replay, addConnection_eq]
      split
      · exact greeting.2
      · exact greeting.2
  | remove => exact ((removeConnection_effects _ s).keeps listed parts.eq).2
  | @activate c member => exact ⟨_, (Roster.replay_concat ..).trans (Roster.keep_true _).symm⟩
  | @deactivate c member => exact ⟨_, (Roster.replay_concat ..).trans (Roster.keep_true _).symm⟩
  | pendingAdd pending linked =>
      exact ((fireCloseWhenIdle_effects _ _ (linkedAdd s _)).keeps ⟨listed.nodup, listed.managed⟩ parts.eq).2
  | pendingAddUnlinked pending unlinked => exact ⟨_, stay⟩
  | dropConnections => exact ((dropConnections_effects _ _ s).keeps ⟨listed.nodup, listed.managed⟩ parts.eq).2
  | @dropAll reaction =>
      refine ⟨fun _ => false, (dropAllConnections_replay reaction listed parts).2.trans ?_⟩
      simp [Roster.asked, Roster.keep]
  | @dropIdle num idleTime reaction =>
      refine (dropIdleConnections_kept (P := fun m => Listed m ∧ Rostered m ∧
        ∃ kept, Roster.replay m.trace = (Roster.replay s.trace).keep kept) ?_ idleTime num ⟨listed, parts.eq, _, stay⟩).2.2
      rintro m c - ⟨listed, rostered, kept, left⟩
      have effects := dropConnection_effects reaction c { m with idleIterator := next c m.conns }
      have here : Listed { m with idleIterator := next c m.conns } := ⟨listed.nodup, listed.managed⟩
      obtain ⟨rostered', kept', left'⟩ := effects.keeps here rostered
      exact ⟨effects.listed here, rostered', fun x => kept' x && kept x, left'.trans (by rw [left, Roster.keep_keep])⟩

theorem step_follows {s s' : ConnectionManager Conn} {op : Op Conn} (wf : WellFormed s) (parts : Partitions s)
    (regular : Regular s op) (taken : s.step op = .ok s') :
    Roster.replay s'.trace = ((Roster.replay s.trace).asked s.isManaged op).keep s'.isManaged := by
  have parts' := step_partitions wf parts regular taken
  obtain ⟨kept, left⟩ := step_leaves wf parts taken
  refine left.trans (Roster.keep_congr fun c member => ?_)
  have there : c ∈ s'.conns ↔ c ∈ (Roster.replay s'.trace).all := by rw [parts'.eq]; rfl
  rw [Bool.eq_iff_iff, (step_wellFormed wf taken).managed, there, left, Roster.mem_keep_all]
  exact (and_iff_right member).symm

theorem run_follows {s s' : ConnectionManager Conn} {ops : List (Op Conn)} (wf : WellFormed s) (parts : Partitions s)
    (regular : Along step Regular s ops) (done : s.run ops = .ok s') :
    WellFormed s' ∧ Partitions s' ∧ Roster.replay s'.trace = Roster.follow (Roster.replay s.trace) s ops := by
  induction ops generalizing s with
  | nil =>
      cases done
      exact ⟨wf, parts, rfl⟩
  | cons op ops ih =>
      obtain ⟨next, taken, rest⟩ := run_cons.mp done
      simp only [Roster.follow, taken, ← step_follows wf parts regular.1 taken]
      exact ih (step_wellFormed wf taken) (step_partitions wf parts regular.1 taken) (regular.2 next taken) rest

/-- In every run that deactivates only busy connections and whose dropped idle connections remove
themselves, the list holds the managed connections once each, the busy ones before the idle iterator and
the idle ones from it on, those that have been idle longest first. -/
theorem run_partitions (timeout : Int) (hasCallback : Bool) (ops : List (Op Conn)) (s : ConnectionManager Conn)
    (regular : Along step Regular (init timeout hasCallback) ops)
    (done : (init timeout hasCallback).run ops = .ok s) :
    s.conns.Nodup ∧ (∀ c, c ∈ s.conns ↔ s.isManaged c = true) ∧
      Divides s.conns s.idleIterator (Roster.replay s.trace).busy (Roster.replay s.trace).idle ∧
      Roster.replay s.trace = Roster.follow {} (init timeout hasCallback) ops := by
  obtain ⟨wf, parts, follows⟩ := run_follows (init_wellFormed timeout hasCallback) ⟨rfl, rfl⟩ regular done
  exact ⟨wf.nodup, fun c => (wf.managed c).symm, parts, follows⟩

def addAndDropIdle : List (Op Nat) :=
  [.addConnection 1 fun _ => [], .addConnection 2 fun _ => [], .addConnection 3 fun _ => [], .onDeactivated 1,
    .onDeactivated 2, .dropIdleConnections 1 (fun _ => 60) fun c => [c]]

theorem run_partitions_dropIdle :
    ∃ s : ConnectionManager Nat, (init 100 false).run addAndDropIdle = .ok s ∧
      s.conns.Nodup ∧ (∀ c, c ∈ s.conns ↔ s.isManaged c = true) ∧ Divides s.conns s.idleIterator [3] [2] ∧
      ⟨[3], [2]⟩ = Roster.follow {} (init 100 false) addAndDropIdle := by
  refine ⟨_, rfl, run_partitions 100 false addAndDropIdle _ ?_ rfl⟩
  refine ⟨trivial, ?_⟩
  rintro _ ⟨⟩
  refine ⟨trivial, ?_⟩
  rintro _ ⟨⟩
  refine ⟨trivial, ?_⟩
  rintro _ ⟨⟩
  refine ⟨by rw [Regular]; decide, ?_⟩
  rintro _ ⟨⟩
  refine ⟨by rw [Regular]; decide, ?_⟩
  rintro _ ⟨⟩
  exact ⟨fun c => List.mem_singleton_self c, fun _ _ => trivial⟩

end Wangle.Proof.Acceptor
