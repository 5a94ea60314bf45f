import Wangle.Proof.Acceptor.IdlePartition
import Mathlib.Data.List.Lattice

/-!
# Shedding idle connections
-/

namespace Wangle.Proof.Acceptor
open Wangle.Acceptor Wangle.Intrusive Wangle.Spec ConnectionManager
open Wangle.Transition hiding run

variable {Conn : Type} [DecidableEq Conn] {s s' : ConnectionManager Conn} {c : Conn}

def idlePart (s : ConnectionManager Conn) : List Conn := onward s.idleIterator s.conns

theorem idlePart_sublist (s : ConnectionManager Conn) : (idlePart s).Sublist s.conns := onward_sublist _ _

theorem idlePart_removeConnection (wf : WellFormed s) (c : Conn) :
    idlePart (s.removeConnection c) = (idlePart s).erase c := by
  cases managed : s.isManaged c with
  | false =>
      rw [removeConnection_of_not_managed managed, List.erase_of_not_mem]
      intro member
      rw [(wf.managed c).mpr ((idlePart_sublist s).mem member)] at managed
      cases managed
  | true =>
      obtain ⟨before, divides⟩ := exists_divides wf.idle
      exact (removeConnection_divides wf.toListed managed divides).onward_eq (wf.toListed.removeConnection c).nodup

theorem idlePart_removeConnections (wf : WellFormed s) (cs : List Conn) :
    idlePart (s.removeConnections cs) = (idlePart s).diff cs := by
  induction cs generalizing s with
  | nil => rfl
  | cons c cs ih =>
      rw [List.diff_cons, ← idlePart_removeConnection wf c]
      exact ih (wf.removeConnection c)

theorem skip_wellFormed (wf : WellFormed s) (c : Conn) : WellFormed { s with idleIterator := next c s.conns } :=
  ⟨⟨wf.nodup, wf.managed⟩, wf.drain, fun _ moved => List.mem_of_mem_erase (next_mem wf.nodup moved)⟩

theorem idlePart_skip (wf : WellFormed s) (stands : s.idleIterator = some c) :
    idlePart s = c :: idlePart { s with idleIterator := next c s.conns } := by
  obtain ⟨before, divides⟩ := exists_divides wf.idle
  rw [stands] at divides
  obtain ⟨tail, isTail⟩ := List.head?_eq_some_iff.mp divides.stands.symm
  rw [isTail] at divides
  rw [idlePart, stands, isTail, idlePart, (divides.advance wf.nodup).onward_eq wf.nodup]

/-! ## Only idle connections stand behind the iterator -/

structure BusyLinked (s : ConnectionManager Conn) : Prop where
  nodup : (Roster.replay s.trace).busy.Nodup
  linked : ∀ c ∈ (Roster.replay s.trace).busy, c ∈ s.conns

structure Placed (s : ConnectionManager Conn) : Prop extends BusyLinked s where
  idle : ∀ c ∈ idlePart s, c ∈ (Roster.replay s.trace).idle ∧ c ∉ (Roster.replay s.trace).busy

namespace BusyLinked

theorem of_removed (busyLinked : BusyLinked s) (roster : Roster.replay s'.trace = (Roster.replay s.trace).after (.removed c))
    (conns : s'.conns = s.conns.erase c) : BusyLinked s' := by
  refine ⟨?_, ?_⟩
  · rw [roster]
    exact busyLinked.nodup.erase c
  · rw [roster, conns]
    intro x member
    obtain ⟨other, busy⟩ := busyLinked.nodup.mem_erase_iff.mp member
    exact (List.mem_erase_of_ne other).mpr (busyLinked.linked x busy)

theorem of_told (busyLinked : BusyLinked s) (roster : Roster.replay s'.trace = Roster.replay s.trace)
    (conns : s'.conns = s.conns) : BusyLinked s' :=
  ⟨roster ▸ busyLinked.nodup, roster ▸ conns ▸ busyLinked.linked⟩

theorem effect (busyLinked : BusyLinked s) (listed : Listed s) (effect : Effect s s') : BusyLinked s' := by
  cases effect with
  | remove c managed => exact busyLinked.of_removed (removeConnection_replay managed) (removeConnection_conns listed c)
  | notify c fresh => exact busyLinked.of_told (Roster.replay_concat _ _) rfl
  | close c due => exact busyLinked.of_told (Roster.replay_concat _ _) rfl
  | drop c => exact busyLinked.of_told (Roster.replay_concat _ _) rfl

theorem effects (busyLinked : BusyLinked s) (listed : Listed s) (effects : Effects s s') : BusyLinked s' := by
  induction effects with
  | refl => exact busyLinked
  | tail before effect ih => exact ih.effect (Effects.listed before listed) effect

theorem dropAllLoop (reaction : Reaction Conn) {n : Nat} (busyLinked : BusyLinked s) (listed : Listed s) :
    BusyLinked (ConnectionManager.dropAllLoop reaction n s) := by
  induction n generalizing s with
  | zero => exact busyLinked
  | succ n ih =>
      rw [ConnectionManager.dropAllLoop]
      split
      · exact busyLinked
      · rename_i c conns front
        have popped := popped_listed listed front
        have effects := dropConnection_effects reaction c
          (record (.removed c) (setManaged c false { s with conns := conns }))
        refine ih (BusyLinked.effects ?_ popped effects) (effects.listed popped)
        refine busyLinked.of_removed (Roster.replay_concat _ _) ?_
        rw [front, List.erase_cons_head]
        rfl

end BusyLinked

namespace Placed

theorem effect (placed : Placed s) (wf : WellFormed s) (effect : Effect s s') : Placed s' := by
  refine ⟨placed.toBusyLinked.effect wf.toListed effect, ?_⟩
  cases effect with
  | remove c managed =>
      rw [removeConnection_replay managed, idlePart_removeConnection wf]
      intro x member
      obtain ⟨other, behind⟩ := ((idlePart_sublist s).nodup wf.nodup).mem_erase_iff.mp member
      obtain ⟨idle, notBusy⟩ := placed.idle x behind
      exact ⟨(List.mem_erase_of_ne other).mpr idle, fun busy => notBusy (List.mem_of_mem_erase busy)⟩
  | notify c fresh => exact Roster.replay_concat s.trace (.notifyPendingShutdown c) ▸ placed.idle
  | close c due => exact Roster.replay_concat s.trace (.closeWhenIdle c) ▸ placed.idle
  | drop c => exact Roster.replay_concat s.trace (.dropConnection c) ▸ placed.idle

theorem effects (placed : Placed s) (wf : WellFormed s) (effects : Effects s s') : Placed s' := by
  induction effects with
  | refl => exact placed
  | tail before effect ih => exact ih.effect (Effects.wellFormed before wf) effect

theorem inserted (placed : Placed s) (wf : WellFormed s) (c : Conn) : Placed (Acceptor.inserted c s) := by
  unfold Acceptor.inserted
  split
  · exact placed
  · rename_i unknown
    have absent : c ∉ s.conns := fun member => unknown ((wf.managed c).mpr member)
    obtain ⟨calls, equal, observer⟩ := insertConnection_eq c s
    have roster : Roster.replay (s.trace ++ .added c :: calls) = (Roster.replay s.trace).after (.added c) :=
      replay_calls _ fun call member r => by rw [observer call member]; rfl
    have behind : onward s.idleIterator (c :: s.conns) = idlePart s := onward_push_front_new wf.idle absent wf.nodup
    rw [equal]
    refine ⟨⟨?_, ?_⟩, ?_⟩
    · rw [roster]
      exact List.nodup_cons.mpr ⟨fun busy => absent (placed.linked c busy), placed.nodup⟩
    · rw [roster]
      exact fun x member => List.mem_cons.mpr ((List.mem_cons.mp member).imp_right (placed.linked x))
    · simp only [idlePart, behind, roster]
      intro x member
      obtain ⟨idle, notBusy⟩ := placed.idle x member
      refine ⟨idle, fun busy => (List.mem_cons.mp busy).elim (fun same => absent ?_) notBusy⟩
      exact same ▸ (idlePart_sublist s).mem member

theorem activate (placed : Placed s) (wf : WellFormed s) (member : c ∈ s.conns) :
    Placed (record (.activated c)
      { s with
        idleIterator := if s.idleIterator = some c then next c s.conns else s.idleIterator
        conns := c :: s.conns.erase c }) := by
  have roster := Roster.replay_concat s.trace (.activated c)
  obtain ⟨before, divides⟩ := exists_divides wf.idle
  have moved := ((divides.erase wf.nodup c).push_front c).onward_eq
    (List.nodup_cons.mpr ⟨fun again => (wf.nodup.mem_erase_iff.mp again).1 rfl, wf.nodup.erase c⟩)
  refine ⟨⟨?_, ?_⟩, ?_⟩
  · simp only [record, roster]
    exact List.nodup_cons.mpr ⟨fun again => (placed.nodup.mem_erase_iff.mp again).1 rfl, placed.nodup.erase c⟩
  · simp only [record, roster]
    intro x busy
    refine (mem_push_front wf member x).mpr ?_
    rcases List.mem_cons.mp busy with rfl | busy
    · exact member
    · exact placed.linked x (List.mem_of_mem_erase busy)
  · simp only [idlePart, record, roster, moved]
    intro x behind
    obtain ⟨other, behind⟩ := ((onward_sublist _ _).nodup wf.nodup).mem_erase_iff.mp behind
    obtain ⟨idle, notBusy⟩ := placed.idle x behind
    refine ⟨(List.mem_erase_of_ne other).mpr idle, fun busy => ?_⟩
    exact (List.mem_cons.mp busy).elim other fun busy => notBusy (List.mem_of_mem_erase busy)

theorem mem_idlePart_deactivate (wf : WellFormed s) {x : Conn}
    (behind : x ∈ onward (if s.idleIterator = none then some c else s.idleIterator) (s.conns.erase c ++ [c])) :
    x = c ∨ x ≠ c ∧ x ∈ idlePart s := by
  have fresh : c ∉ s.conns.erase c := fun again => (wf.nodup.mem_erase_iff.mp again).1 rfl
  have alone : onward (some c) (s.conns.erase c ++ [c]) = [c] := onward_cons fresh
  cases stands : s.idleIterator with
  | none =>
      rw [stands, if_pos rfl, alone] at behind
      exact .inl (List.mem_singleton.mp behind)
  | some y =>
      rw [stands, if_neg (Option.some_ne_none y)] at behind
      by_cases same : y = c
      · rw [same, alone] at behind
        exact .inl (List.mem_singleton.mp behind)
      · obtain ⟨before, divides⟩ := exists_divides wf.idle
        have other : s.idleIterator ≠ some c := by rw [stands]; exact fun equal => same (Option.some.inj equal)
        have erased := divides.erase wf.nodup c
        rw [if_neg other, stands] at erased
        have nodup : (s.conns.erase c ++ [c]).Nodup := List.concat_eq_append ▸ (wf.nodup.erase c).concat fresh
        rw [(erased.push_back (Option.some_ne_none y) c).onward_eq nodup, List.mem_append, List.mem_singleton] at behind
        by_cases self : x = c
        · exact .inl self
        · refine .inr ⟨self, ?_⟩
          have kept := List.mem_of_mem_erase (behind.resolve_right self)
          rwa [idlePart, stands]

theorem deactivate (placed : Placed s) (wf : WellFormed s) (member : c ∈ s.conns) {drainIterator : Option Conn} :
    Placed (record (.deactivated c)
      { s with
        conns := s.conns.erase c ++ [c]
        idleIterator := if s.idleIterator = none then some c else s.idleIterator
        drainIterator := drainIterator }) := by
  have roster := Roster.replay_concat s.trace (.deactivated c)
  refine ⟨⟨?_, ?_⟩, ?_⟩
  · simp only [record, roster]
    exact placed.nodup.erase c
  · simp only [record, roster]
    exact fun x busy => (mem_push_back wf member x).mpr (placed.linked x (List.mem_of_mem_erase busy))
  · simp only [idlePart, record, roster]
    intro x behind
    simp only [Roster.after, List.mem_append, List.mem_singleton]
    rcases mem_idlePart_deactivate wf behind with rfl | ⟨other, before⟩
    · exact ⟨.inr rfl, fun busy => (placed.nodup.mem_erase_iff.mp busy).1 rfl⟩
    · obtain ⟨idle, notBusy⟩ := placed.idle x before
      exact ⟨.inl ((List.mem_erase_of_ne other).mpr idle), fun busy => notBusy (List.mem_of_mem_erase busy)⟩

theorem skip (placed : Placed s) (wf : WellFormed s) (stands : s.idleIterator = some c) :
    Placed { s with idleIterator := next c s.conns } := by
  refine ⟨⟨placed.nodup, placed.linked⟩, fun x behind => placed.idle x ?_⟩
  rw [idlePart_skip wf stands]
  exact List.mem_cons_of_mem _ behind

theorem dropAllConnections (placed : Placed s) (wf : WellFormed s) (reaction : Reaction Conn) :
    Placed (s.dropAllConnections reaction) := by
  have start : BusyLinked s.stopDrainingForShutdown := ⟨placed.nodup, placed.linked⟩
  have dropped := start.dropAllLoop reaction (n := s.conns.length) ⟨wf.nodup, wf.managed⟩
  unfold ConnectionManager.dropAllConnections
  simp only
  split
  · exact ⟨dropped.of_told (Roster.replay_concat _ _) rfl, fun x behind => by cases behind⟩
  · exact ⟨⟨dropped.nodup, dropped.linked⟩, fun x behind => by cases behind⟩

theorem step {op : Op Conn} (placed : Placed s) (wf : WellFormed s) (taken : s.step op = .ok s') : Placed s' := by
  cases stepCase taken with
  | turn enters done =>
      obtain ⟨-, seen, rest, m, -, drained, finished⟩ := drainConnections_ok (enters.wellFormed wf) done
      have through : Placed m := by
        refine Placed.effects ?_ (enters.wellFormed wf) drained.effects
        cases enters <;> first
          | exact ⟨⟨placed.nodup, placed.linked⟩, placed.idle⟩
          | (unfold DrainHelper.beginDrain; split <;> exact ⟨⟨placed.nodup, placed.linked⟩, placed.idle⟩)
      cases finished <;> exact ⟨⟨through.nodup, through.linked⟩, through.idle⟩
  | initiateIgnored busy => exact placed
  | drainIgnored busy => exact placed
  | timeoutIgnored early => exact ⟨⟨placed.nodup, placed.linked⟩, placed.idle⟩
  | @add c reaction =>
      have greeting := (placed.inserted wf c).effects (inserted_wellFormed wf c) (greeted_effects reaction c s)
      rw [addConnection_eq]
      split
      · exact ⟨⟨greeting.nodup, greeting.linked⟩, greeting.idle⟩
      · exact greeting
  | remove => exact placed.effects wf (removeConnection_effects _ s)
  | activate member => exact placed.activate wf member
  | deactivate member => exact placed.deactivate wf member
  | @pendingAdd c reaction pending linked =>
      have without : Placed (linkedAdd s c) := ⟨⟨placed.nodup, placed.linked⟩, placed.idle⟩
      exact without.effects (wf.of_eq rfl rfl rfl rfl) (fireCloseWhenIdle_effects _ _ _)
  | pendingAddUnlinked pending unlinked => exact ⟨⟨placed.nodup, placed.linked⟩, placed.idle⟩
  | dropConnections =>
      have stopped : Placed s.stopDrainingForShutdown := ⟨⟨placed.nodup, placed.linked⟩, placed.idle⟩
      exact stopped.effects (wf.of_eq rfl rfl rfl rfl) (dropConnections_effects _ _ s)
  | dropAll => exact placed.dropAllConnections wf _
  | @dropIdle num idleTime reaction =>
      have turn (m : ConnectionManager Conn) (c : Conn) (stands : m.idleIterator = some c) (holds : WellFormed m ∧ Placed m) :
          WellFormed (dropConnection reaction c { m with idleIterator := next c m.conns }) ∧
            Placed (dropConnection reaction c { m with idleIterator := next c m.conns }) := by
        have skipped := skip_wellFormed holds.1 c
        have effects := dropConnection_effects reaction c { m with idleIterator := next c m.conns }
        exact ⟨effects.wellFormed skipped, (holds.2.skip holds.1 stands).effects skipped effects⟩
      exact (dropIdleConnections_kept (P := fun m => WellFormed m ∧ Placed m) turn idleTime num ⟨wf, placed⟩).2

end Placed

theorem run_placed {timeout : Int} {hasCallback : Bool} {ops : List (Op Conn)}
    (done : (init timeout hasCallback).run ops = .ok s) : WellFormed s ∧ Placed s := by
  refine run_invariant_all (I := fun s => WellFormed s ∧ Placed s) ?_ ⟨init_wellFormed timeout hasCallback, ?_⟩ done
  · exact fun m op m' holds taken => ⟨step_wellFormed holds.1 taken, holds.2.step holds.1 taken⟩
  · exact ⟨⟨List.nodup_nil, fun c busy => by cases busy⟩, fun c behind => by cases behind⟩

/-! ## One call -/

def dropped? : Event Conn → Option Conn
  | .dropConnection c => some c
  | _ => none

def drops (trace : List (Event Conn)) : List Conn := trace.filterMap dropped?

theorem drops_removeConnections (cs : List Conn) (s : ConnectionManager Conn) :
    drops (s.removeConnections cs).trace = drops s.trace := by
  induction cs generalizing s with
  | nil => rfl
  | cons c cs ih =>
      refine (ih (s.removeConnection c)).trans ?_
      cases managed : s.isManaged c with
      | false => rw [removeConnection_of_not_managed managed]
      | true =>
          obtain ⟨calls, equal, observer⟩ := removeConnection_eq managed
          have quiet : calls.filterMap dropped? = [] := by
            rw [List.filterMap_eq_nil_iff]
            intro call member
            rcases observer call member with rfl | rfl <;> rfl
          rw [equal]
          simp [drops, List.filterMap_append, List.filterMap_cons, dropped?, quiet]

def Due (idleTime : Conn → Int) (threshold : Int) (c : Conn) : Prop := 0 < idleTime c ∧ threshold < idleTime c

instance (idleTime : Conn → Int) (threshold : Int) : DecidablePred (Due idleTime threshold) :=
  fun _ => inferInstanceAs (Decidable (_ ∧ _))

omit [DecidableEq Conn] in
theorem due_iff {idleTime : Conn → Int} {threshold : Int} (nonneg : 0 ≤ threshold) :
    Due idleTime threshold c ↔ ¬ (idleTime c = 0 ∨ idleTime c ≤ threshold) := by
  rw [Due]
  omega

def Alone (reaction : Reaction Conn) (s : ConnectionManager Conn) (c : Conn) : Prop := ∀ x ∈ s.conns, x ∈ reaction c → x = c

structure Shed (reaction : Reaction Conn) (idleTime : Conn → Int) (threshold : Int) (num : Nat)
    (s : ConnectionManager Conn) (dropped : List Conn) : Prop where
  idle : dropped.Sublist (idlePart s)
  due : ∀ c ∈ dropped, Due idleTime threshold c
  all : (∀ c ∈ idlePart s, Alone reaction s c) →
    dropped.length = min num ((idlePart s).countP fun c => Due idleTime threshold c)

section loop
variable {reaction : Reaction Conn} {idleTime : Conn → Int}

variable (reaction) in
theorem idlePart_dropConnection (wf : WellFormed s) (stands : s.idleIterator = some c) :
    idlePart s = c :: idlePart { s with idleIterator := next c s.conns } ∧
    (idlePart (dropConnection reaction c { s with idleIterator := next c s.conns })).Sublist
      (idlePart { s with idleIterator := next c s.conns }) ∧
    (Alone reaction s c → idlePart (dropConnection reaction c { s with idleIterator := next c s.conns }) =
      idlePart { s with idleIterator := next c s.conns }) := by
  have front := idlePart_skip wf stands
  have skipped := skip_wellFormed wf c
  have left : idlePart (dropConnection reaction c { s with idleIterator := next c s.conns }) =
      (idlePart { s with idleIterator := next c s.conns }).diff (reaction c) :=
    idlePart_removeConnections (s := record (.dropConnection c) { s with idleIterator := next c s.conns })
      (skipped.of_eq rfl rfl rfl rfl) (reaction c)
  refine ⟨front, left ▸ List.diff_sublist _ _, fun alone => ?_⟩
  have nodup := (idlePart_sublist s).nodup wf.nodup
  have inside := (idlePart_sublist s).subset
  rw [front] at nodup inside
  rw [left, (List.nodup_cons.mp nodup).2.sdiff_eq_filter, List.filter_eq_self]
  intro x member
  refine decide_eq_true fun removed => (List.nodup_cons.mp nodup).1 ?_
  exact alone x (inside (List.mem_cons_of_mem _ member)) removed ▸ member

variable (reaction) in
theorem dropIdleLoop_shed {threshold : Int} (num : Nat) (wf : WellFormed s)
    (isThreshold : s.idleConnEarlyDropThreshold = threshold) (nonneg : 0 ≤ threshold)
    (ordered : (idlePart s).Pairwise fun a b => idleTime b ≤ idleTime a) :
    ∃ dropped, drops (dropIdleLoop reaction idleTime num s).2.trace = drops s.trace ++ dropped ∧
      (dropIdleLoop reaction idleTime num s).1 = dropped.length ∧ Shed reaction idleTime threshold num s dropped := by
  -- what is left of the idle part keeps its order, so that no connection behind one that is not due is due
  induction num generalizing s with
  | zero => exact ⟨[], by simp [dropIdleLoop], rfl, List.nil_sublist _, by simp, fun _ => by simp⟩
  | succ num ih =>
      cases stands : s.idleIterator with
      | none =>
          have empty : idlePart s = [] := by rw [idlePart, stands]; rfl
          refine ⟨[], by simp [dropIdleLoop, stands], by simp [dropIdleLoop, stands], List.nil_sublist _, by simp, fun _ => ?_⟩
          simp [empty]
      | some c =>
          obtain ⟨front, shorter, same⟩ := idlePart_dropConnection reaction wf stands
          have order := ordered
          rw [front, List.pairwise_cons] at order
          by_cases due : Due idleTime threshold c
          · have goes := (due_iff nonneg).mp due
            have effects := dropConnection_effects reaction c { s with idleIterator := next c s.conns }
            obtain ⟨dropped, traced, counted, shed⟩ := ih (effects.wellFormed (skip_wellFormed wf c))
              (effects.sameDrain.threshold.trans isThreshold) (order.2.sublist shorter)
            rw [← isThreshold] at goes
            refine ⟨c :: dropped, ?_, ?_, ?_, ?_, fun alone => ?_⟩
            · simp only [dropIdleLoop, stands, if_neg goes, traced]
              rw [dropConnection, drops_removeConnections]
              simp [drops, record, List.filterMap_append, dropped?]
            · simp only [dropIdleLoop, stands, if_neg goes, counted, List.length_cons]
            · rw [front]
              exact (shed.idle.trans shorter).cons_cons c
            · rw [List.forall_mem_cons]
              exact ⟨due, shed.due⟩
            · rw [front] at alone ⊢
              have rest := same (alone c List.mem_cons_self)
              have all := shed.all fun x member y linked => ?_
              · rw [rest] at all
                rw [List.length_cons, all, List.countP_cons_of_pos (by simpa using due)]
                omega
              · exact alone x (List.mem_cons_of_mem _ (rest ▸ member)) y (effects.conns_sublist.mem linked)
          · have stops := not_not.mp (mt (due_iff nonneg).mpr due)
            rw [← isThreshold] at stops
            refine ⟨[], ?_, ?_, List.nil_sublist _, by simp, fun _ => ?_⟩
            · simp [dropIdleLoop, stands, if_pos stops]
            · simp [dropIdleLoop, stands, if_pos stops]
            · have none : ∀ x ∈ idlePart s, ¬ Due idleTime threshold x := by
                rw [front, List.forall_mem_cons]
                refine ⟨due, fun x member later => due ?_⟩
                have before := order.1 x member
                rw [Due] at later ⊢
                omega
              rw [List.countP_eq_zero.mpr (by simpa using none)]
              simp

end loop

theorem dropIdleConnections_sheds (timeout : Int) (hasCallback : Bool) (ops : List (Op Conn)) (s s₁ : ConnectionManager Conn)
    (done : (init timeout hasCallback).run ops = .ok s) (threshold : Int)
    (lowered : s.setLoweredIdleTimeout threshold = .ok s₁) (below : threshold < s.timeout) (num : Nat)
    (idleTime : Conn → Int) (reaction : Reaction Conn)
    (ordered : (idlePart s).Pairwise fun a b => idleTime b ≤ idleTime a) :
    ∃ dropped, drops (s₁.dropIdleConnections reaction idleTime num).2.trace = drops s.trace ++ dropped ∧
      (s₁.dropIdleConnections reaction idleTime num).1 = dropped.length ∧
      Shed reaction idleTime threshold num s dropped ∧ dropped.Pairwise (fun a b => idleTime b ≤ idleTime a) ∧
      ∀ c ∈ dropped, c ∈ (Roster.replay s.trace).idle ∧ c ∉ (Roster.replay s.trace).busy := by
  obtain ⟨wf, placed⟩ := run_placed done
  rw [setLoweredIdleTimeout] at lowered
  split at lowered
  · rename_i bounds
    cases lowered
    obtain ⟨dropped, traced, counted, shed⟩ := dropIdleLoop_shed reaction num
      (s := { s with idleConnEarlyDropThreshold := threshold }) (wf.of_eq rfl rfl rfl rfl) rfl bounds.1 ordered
    have runs : ¬ threshold ≥ s.timeout := Int.not_le.mpr below
    rw [dropIdleConnections, if_neg runs]
    exact ⟨dropped, traced, counted, ⟨shed.idle, shed.due, shed.all⟩, ordered.sublist shed.idle, fun c member => placed.idle c (shed.idle.mem member)⟩
  · cases lowered

/-- Of the idle connections 1, 2 and 3 the first takes the second with it, and the third is not due. -/
theorem dropIdleConnections_sheds_first : ∃ s s₁ : ConnectionManager Int, ∃ dropped,
    (init 100 false).run [.addConnection 1 fun _ => [], .addConnection 2 fun _ => [], .addConnection 3 fun _ => [],
      .onDeactivated 1, .onDeactivated 2, .onDeactivated 3] = .ok s ∧
    s.setLoweredIdleTimeout 60 = .ok s₁ ∧
    drops (s₁.dropIdleConnections (fun c => [c, 2]) (fun c => 90 - 12 * c) 5).2.trace = drops s.trace ++ dropped ∧
    dropped.Sublist [1, 2, 3] ∧ ∀ c ∈ dropped, c ∉ (Roster.replay s.trace).busy := by
  obtain ⟨dropped, traced, -, shed, -, idle⟩ := dropIdleConnections_sheds 100 false
    ([.addConnection 1 fun _ => [], .addConnection 2 fun _ => [], .addConnection 3 fun _ => [],
      .onDeactivated 1, .onDeactivated 2, .onDeactivated 3] : List (Op Int)) _ _ rfl 60 rfl (by decide) 5 (fun c => 90 - 12 * c)
    (fun c => [c, 2]) (by decide)
  exact ⟨_, _, dropped, rfl, rfl, traced, shed.idle, fun c member => (idle c member).2⟩

end Wangle.Proof.Acceptor
