import Wangle.Proof.Acceptor.GracefulShutdown
import Wangle.Proof.Acceptor.Notifications
import Wangle.Proof.Acceptor.PartialDrain

/-!
# Partial operations and the shutdown

A partial drain leaves `all_` false, and then `getShutdownState` reports no shutdown whatever state the
helper is in. `dropConnections` writes the state and leaves `all_` alone.
-/

namespace Wangle.Proof.Acceptor
open Wangle.Acceptor Wangle.Intrusive Wangle.Transition ConnectionManager

variable {Conn : Type} [DecidableEq Conn]

def Selective (s : ConnectionManager Conn) : Op Conn → Prop
  | .initiateGracefulShutdown _ _ => False
  | .dropAllConnections _ => False
  | .dropIdleConnections _ _ _ => False
  | .dropConnections _ _ => s.drainHelper.all = false
  | _ => True

/-- A close pass that visits the connection does not tell it to close. -/
def Immune (s : ConnectionManager Conn) (c : Conn) : Prop :=
  s.notifyPendingShutdown = true ∧ s.drainState c ≠ .sentNotifyPendingShutdown

/-- No move of a connection brings `c` before a pass that is under way, and no close pass begins that has `c`
before it and could tell it to close. -/
def LeavesOut (c : Conn) (s : ConnectionManager Conn) : Op Conn → Prop
  | .drainConnections _ _ _ => False
  | .onActivated d => s.drainIterator = some d → ¬ Active s.drainHelper
  | .onDeactivated d => d = c → ¬ Active s.drainHelper
  | .timeoutExpired _ =>
      s.drainHelper.shutdownState = .notifyPendingShutdownComplete → c ∈ drainRange s → Immune s c
  | .runLoopCallback _ =>
      s.drainHelper.shutdownState = .notifyPendingShutdown → s.drainHelper.isScheduled = false → Immune s c
  | op => Selective s op

def Afterwards (s : ConnectionManager Conn) : Op Conn → Prop
  | .onActivated c => c ∈ (remaining s).tail → Past s c
  | .onDeactivated _ => True
  | .removeConnection _ => True
  | .runLoopCallback _ => True
  | .timeoutExpired _ => True
  | _ => False

/-! ## No shutdown is reported -/

structure NoShutdown (s : ConnectionManager Conn) : Prop extends WellFormed s where
  unstarted : s.drainHelper.all = true → s.drainHelper.shutdownState = .none
  nonePending : s.pendingAdds = []

namespace NoShutdown
variable {s s' : ConnectionManager Conn}

omit [DecidableEq Conn] in
theorem getShutdownState (unstarted : NoShutdown s) : s.drainHelper.getShutdownState = .none := by
  unfold DrainHelper.getShutdownState
  split
  · rename_i all
    exact unstarted.unstarted all
  · rfl

theorem turn {reaction : Reaction Conn} (unstarted : NoShutdown s)
    (done : DrainHelper.drainConnections reaction s = .ok s') : NoShutdown s' := by
  have wf := unstarted.toWellFormed
  obtain ⟨active, seen, rest, m, -, drained, finished⟩ := drainConnections_ok wf done
  have same := drained.effects.sameDrain
  refine ⟨drainConnections_wellFormed wf done, fun all => ?_, ?_⟩
  · have all : s.drainHelper.all = true := by
      rw [← same.drainHelper]
      cases finished <;> exact all
    rw [Active, unstarted.unstarted all] at active
    rcases active with notifying | closing
    · cases notifying
    · cases closing
  · rw [finished.same.2.2.2.2, same.pendingAdds, unstarted.nonePending]

end NoShutdown

omit [DecidableEq Conn] in
theorem Enters.noShutdown {s entry : ConnectionManager Conn} {op : Op Conn} {reaction : Reaction Conn}
    (enters : Enters s op reaction entry) (unstarted : NoShutdown s) (selective : Selective s op) : NoShutdown entry := by
  have wf' := enters.wellFormed unstarted.toWellFormed
  cases enters with
  | initiate idle => exact selective.elim
  | @drain pct idleGrace reaction idle =>
      by_cases grace : idleGrace > 0
      · rw [beginDrain_of_grace grace] at wf' ⊢
        exact ⟨wf', (nomatch ·), unstarted.nonePending⟩
      · rw [beginDrain_of_not_grace grace] at wf' ⊢
        exact ⟨wf', (nomatch ·), unstarted.nonePending⟩
  | loop scheduled => exact ⟨wf', unstarted.unstarted, unstarted.nonePending⟩
  | timeout scheduled complete =>
      refine ⟨wf', fun all => ?_, unstarted.nonePending⟩
      rw [unstarted.unstarted all] at complete
      cases complete

theorem step_noShutdown {s s' : ConnectionManager Conn} {op : Op Conn} (unstarted : NoShutdown s)
    (selective : Selective s op) (taken : s.step op = .ok s') : NoShutdown s' := by
  have wf' := step_wellFormed unstarted.toWellFormed taken
  cases stepCase taken with
  | turn enters done => exact (enters.noShutdown unstarted selective).turn done
  | initiateIgnored busy => exact unstarted
  | drainIgnored busy => exact unstarted
  | timeoutIgnored early => exact ⟨wf', unstarted.unstarted, unstarted.nonePending⟩
  | @add c reaction =>
      rw [addConnection_of_idle unstarted.getShutdownState] at wf' ⊢
      have same := inserted_sameDrain c s
      exact ⟨wf', by rw [same.drainHelper]; exact unstarted.unstarted, by rw [same.pendingAdds, unstarted.nonePending]⟩
  | @remove c =>
      have same := (removeConnection_effects c s).sameDrain
      exact ⟨wf', by rw [same.drainHelper]; exact unstarted.unstarted, by rw [same.pendingAdds, unstarted.nonePending]⟩
  | activate member => exact ⟨wf', unstarted.unstarted, unstarted.nonePending⟩
  | deactivate member => exact ⟨wf', unstarted.unstarted, unstarted.nonePending⟩
  | pendingAdd pending linked =>
      rw [unstarted.nonePending] at pending
      cases pending
  | pendingAddUnlinked pending unlinked =>
      rw [unstarted.nonePending] at pending
      cases pending
  | @dropConnections pct reaction =>
      have same := (dropConnections_effects reaction pct s).sameDrain
      refine ⟨wf', fun all => ?_, by rw [same.pendingAdds]; exact unstarted.nonePending⟩
      rw [same.drainHelper] at all
      exact absurd (show s.drainHelper.all = true from all) (by rw [show s.drainHelper.all = false from selective]; decide)
  | dropAll => exact selective.elim
  | dropIdle => exact selective.elim

/-! ## A connection that the drains leave alone -/

structure Untold (c : Conn) (s s' : ConnectionManager Conn) : Prop where
  notices : notices c s'.trace = notices c s.trace
  drainState : s'.drainState c = s.drainState c

namespace Untold
variable {c : Conn} {s m s' : ConnectionManager Conn}

theorem refl (c : Conn) (s : ConnectionManager Conn) : Untold c s s := ⟨rfl, rfl⟩

theorem trans (first : Untold c s m) (second : Untold c m s') : Untold c s s' :=
  ⟨second.notices.trans first.notices, second.drainState.trans first.drainState⟩

theorem of_quietly (quietly : Quietly s s') : Untold c s s' := by
  obtain ⟨more, grown, quiet⟩ := quietly.trace
  refine ⟨?_, by rw [quietly.drainState]⟩
  rw [grown, notices_append, notices_quiet quiet, List.append_nil]

theorem told {d : Conn} {e : Event Conn} (state : DrainState) (own : e = .notifyPendingShutdown d ∨ e = .closeWhenIdle d)
    (other : c ≠ d) : Untold c s (record e (setDrainState d state s)) := by
  refine ⟨?_, Function.update_of_ne other _ _⟩
  rw [record, notices_append]
  rcases own with rfl | rfl <;> simp [Acceptor.notices, setDrainState, Ne.symm other]

theorem drainOne (reaction : Reaction Conn) {d : Conn} (other : c ≠ d) :
    Untold c s (DrainHelper.drainOne reaction d s) := by
  unfold DrainHelper.drainOne fireNotifyPendingShutdown fireCloseWhenIdle
  split
  · split
    · exact (told _ (.inl rfl) other).trans (.of_quietly (removeConnections_quietly _ _))
    · exact .refl c s
  · split
    · exact (told _ (.inr rfl) other).trans (.of_quietly (removeConnections_quietly _ _))
    · exact .refl c s

end Untold

theorem drainOne_immune {c : Conn} {s : ConnectionManager Conn} (immune : Immune s c)
    (closing : s.drainHelper.shutdownState = .closeWhenIdle) (reaction : Reaction Conn) :
    DrainHelper.drainOne reaction c s = s := by
  rw [DrainHelper.drainOne, if_neg (by simp [closing]), fireCloseWhenIdle, if_neg]
  simp [immune.1, immune.2]

theorem Looped.untold {reaction : Reaction Conn} {n : Nat} {ahead seen rest : List Conn}
    {s s' : ConnectionManager Conn} {c : Conn} (looped : Looped reaction n ahead s seen rest s')
    (apart : c ∉ seen ∨ (Immune s c ∧ s.drainHelper.shutdownState = .closeWhenIdle)) : Untold c s s' := by
  induction looped with
  | stop ahead s => exact .refl c s
  | finish n s => exact .refl c s
  | @visit n d tail seen rest s s' further ih =>
      have same := (drainOne_effects reaction d s).sameDrain
      have first : Untold c s (DrainHelper.drainOne reaction d s) := by
        by_cases own : c = d
        · subst own
          obtain ⟨immune, closing⟩ := apart.resolve_left fun unseen => unseen List.mem_cons_self
          rw [drainOne_immune immune closing]
          exact .refl c s
        · exact .drainOne reaction own
      refine first.trans (ih ?_)
      rcases apart with unseen | ⟨immune, closing⟩
      · exact .inl fun later => unseen (List.mem_cons_of_mem _ later)
      · refine .inr ⟨⟨by rw [same.notifyPendingShutdown, immune.1], ?_⟩, by rw [same.drainHelper, closing]⟩
        rw [first.drainState]
        exact immune.2

structure Apart (c : Conn) (s : ConnectionManager Conn) : Prop extends NoShutdown s where
  notifying : s.drainHelper.shutdownState = .notifyPendingShutdown → c ∉ remaining s
  closing : s.drainHelper.shutdownState = .closeWhenIdle → c ∉ remaining s ∨ Immune s c

theorem Immune.untold {c : Conn} {s s' : ConnectionManager Conn} (immune : Immune s c) (untold : Untold c s s')
    (flag : s'.notifyPendingShutdown = s.notifyPendingShutdown) : Immune s' c :=
  ⟨flag.trans immune.1, by rw [untold.drainState]; exact immune.2⟩

theorem Apart.turn {c : Conn} {reaction : Reaction Conn} {s s' : ConnectionManager Conn} (apart : Apart c s)
    (late : s.drainHelper.shutdownState = .notifyPendingShutdown → s.drainHelper.isScheduled = false → Immune s c)
    (done : DrainHelper.drainConnections reaction s = .ok s') : Apart c s' ∧ Untold c s s' := by
  have wf := apart.toWellFormed
  obtain ⟨active, seen, rest, m, looped, drained, finished⟩ := drainConnections_ok wf done
  have same := drained.effects.sameDrain
  have unvisited : c ∉ seen ∨ (Immune s c ∧ s.drainHelper.shutdownState = .closeWhenIdle) := by
    rcases active with notifying | closing
    · exact .inl fun visit => apart.notifying notifying (drained.seen_subset visit)
    · exact (apart.closing closing).imp (fun absent visit => absent (drained.seen_subset visit)) fun immune =>
        ⟨immune, closing⟩
  have untold := (looped.untold unvisited).trans (.of_quietly finished.quietly)
  have immune (immune : Immune s c) : Immune s' c :=
    immune.untold untold (by rw [finished.same.2.2.2.1, same.notifyPendingShutdown])
  obtain ⟨before, eq⟩ := drained.conns
  have ahead : onward rest.head? m.conns = rest := (Divides.mk eq rfl).onward_eq (drained.effects.wellFormed wf).nodup
  refine ⟨⟨apart.toNoShutdown.turn done, ?_, ?_⟩, untold⟩
  · intro notifying
    cases finished with
    | more left =>
        rw [remaining, ahead]
        exact fun member => apart.notifying (same.drainHelper ▸ notifying) (drained.rest_subset member)
    | notified | expired | closed => cases notifying
  · intro closing
    cases finished with
    | more left =>
        rw [remaining, ahead]
        refine (apart.closing (same.drainHelper ▸ closing)).imp (fun absent member => ?_) immune
        exact absent (drained.rest_subset member)
    | expired empty notifying expired =>
        rw [same.drainHelper] at notifying expired
        exact .inr (immune (late notifying expired))
    | notified | closed => cases closing

theorem Apart.keep {c : Conn} {s s' : ConnectionManager Conn} (apart : Apart c s) (unstarted : NoShutdown s')
    (helper : s'.drainHelper.shutdownState = s.drainHelper.shutdownState)
    (flag : s'.notifyPendingShutdown = s.notifyPendingShutdown) (untold : Untold c s s')
    (ahead : Active s.drainHelper → c ∈ remaining s' → c ∈ remaining s) : Apart c s' ∧ Untold c s s' := by
  refine ⟨⟨unstarted, ?_, ?_⟩, untold⟩
  · intro notifying member
    rw [helper] at notifying
    exact apart.notifying notifying (ahead (.inl notifying) member)
  · intro closing
    rw [helper] at closing
    refine (apart.closing closing).imp (fun absent member => absent (ahead (.inr closing) member)) fun immune => ?_
    exact immune.untold untold flag

omit [DecidableEq Conn] in
theorem LeavesOut.selective {c : Conn} {s : ConnectionManager Conn} {op : Op Conn} (spares : LeavesOut c s op) :
    Selective s op := by
  cases op with
  | drainConnections => exact spares.elim
  | onActivated | onDeactivated | timeoutExpired | runLoopCallback => trivial
  | addConnection | removeConnection | initiateGracefulShutdown | dropConnections | dropAllConnections
  | dropIdleConnections | runPendingAdd => exact spares

theorem Enters.apart {c : Conn} {s entry s' : ConnectionManager Conn} {op : Op Conn} {reaction : Reaction Conn}
    (enters : Enters s op reaction entry) (apart : Apart c s) (spares : LeavesOut c s op)
    (done : DrainHelper.drainConnections reaction entry = .ok s') : Apart c s' ∧ Untold c s s' := by
  have quiet : Untold c s entry := .of_quietly enters.quietly
  have entered := enters.noShutdown apart.toNoShutdown spares.selective
  cases enters with
  | initiate idle => exact spares.elim
  | drain idle => exact spares.elim
  | loop scheduled =>
      have apart' : Apart c { s with drainHelper := { s.drainHelper with isLoopCallbackScheduled := false } } :=
        ⟨entered, apart.notifying, apart.closing⟩
      exact (apart'.turn spares done).imp_right quiet.trans
  | timeout scheduled complete =>
      have range := onward_drainStartIterator apart.toWellFormed.nodup
      have begun : Apart c
          { s with
            drainIterator := DrainHelper.drainStartIterator s
            drainHelper := { s.drainHelper with isScheduled := false, shutdownState := .closeWhenIdle } } := by
        refine ⟨entered, fun notifying => (by cases notifying), fun _ => ?_⟩
        rw [remaining, range]
        exact or_iff_not_imp_left.mpr fun inside => spares complete (not_not.mp inside)
      exact (begun.turn (fun notifying => by cases notifying) done).imp_right quiet.trans

theorem step_apart {c : Conn} {s s' : ConnectionManager Conn} {op : Op Conn} (apart : Apart c s)
    (spares : LeavesOut c s op) (taken : s.step op = .ok s') : Apart c s' ∧ Untold c s s' := by
  have wf := apart.toWellFormed
  have unstarted := step_noShutdown apart.toNoShutdown spares.selective taken
  cases stepCase taken with
  | turn enters done => exact enters.apart apart spares done
  | initiateIgnored busy => exact spares.elim
  | drainIgnored busy => exact spares.elim
  | timeoutIgnored early => exact apart.keep unstarted rfl rfl (.of_quietly (.of_eq rfl rfl)) fun _ => id
  | @add d reaction =>
      rw [addConnection_of_idle apart.getShutdownState] at unstarted ⊢
      have same := inserted_sameDrain d s
      refine apart.keep unstarted (by rw [same.drainHelper]) same.notifyPendingShutdown
        (.of_quietly (inserted_quietly d s)) fun _ member => ?_
      rwa [inserted_remaining wf] at member
  | @remove d =>
      have same := (removeConnection_effects d s).sameDrain
      refine apart.keep unstarted (by rw [same.drainHelper]) same.notifyPendingShutdown
        (.of_quietly (removeConnection_quietly d s)) fun _ member => ?_
      rw [removeConnection_remaining wf] at member
      exact List.mem_of_mem_erase member
  | @activate d inside =>
      refine apart.keep unstarted rfl rfl (.of_quietly ⟨rfl, [.activated d], rfl, by simp [Quiet]⟩) fun active member => ?_
      have elsewhere : s.drainIterator ≠ some d := fun own => spares own active
      have ahead : c ∈ onward s.drainIterator (d :: s.conns.erase d) := member
      rw [onward_move_front_of_ne wf.nodup wf.drain elsewhere] at ahead
      exact List.mem_of_mem_erase ahead
  | @deactivate d inside =>
      refine apart.keep unstarted rfl rfl (.of_quietly ⟨rfl, [.deactivated d], rfl, by simp [Quiet]⟩) fun active member => ?_
      exact of_mem_onward_move_back wf.nodup wf.drain (fun same => spares same.symm active) member
  | pendingAdd pending linked =>
      rw [apart.nonePending] at pending
      cases pending
  | pendingAddUnlinked pending unlinked =>
      rw [apart.nonePending] at pending
      cases pending
  | @dropConnections pct reaction =>
      have same := (dropConnections_effects reaction pct s).sameDrain
      have state : (s.dropConnections reaction pct).drainHelper.shutdownState = .closeWhenIdleComplete := by
        rw [same.drainHelper]
        rfl
      refine ⟨⟨unstarted, ?_, ?_⟩, .of_quietly (dropConnections_quietly reaction pct s)⟩
      · intro notifying
        rw [state] at notifying
        cases notifying
      · intro closing
        rw [state] at closing
        cases closing
  | dropAll => exact spares.elim
  | dropIdle => exact spares.elim

/-! ## The shutdown that follows -/

structure Pursuing (s : ConnectionManager Conn) : Prop extends WellFormed s where
  full : s.drainHelper.all = true
  nonePending : s.pendingAdds = []
  covered : ∀ c ∈ s.conns, Covered s c

theorem Pursuing.turn {reaction : Reaction Conn} {s s' : ConnectionManager Conn} (pursuing : Pursuing s)
    (done : DrainHelper.drainConnections reaction s = .ok s') : Pursuing s' := by
  have wf := pursuing.toWellFormed
  obtain ⟨full, covered⟩ := drainConnections_covered wf pursuing.full pursuing.covered done
  obtain ⟨-, seen, rest, m, -, drained, finished⟩ := drainConnections_ok wf done
  refine ⟨drainConnections_wellFormed wf done, full, ?_, covered⟩
  rw [finished.same.2.2.2.2, drained.effects.sameDrain.pendingAdds, pursuing.nonePending]

theorem initiated_pursuing {s : ConnectionManager Conn} (unstarted : NoShutdown s) (idleGrace : Int) :
    Pursuing (DrainHelper.beginDrain idleGrace
      { s with drainHelper := { s.drainHelper with all := true, pct := id, isScheduled := false } }) := by
  have wf := unstarted.toWellFormed
  have begun : WellFormed { s with drainHelper := { s.drainHelper with all := true, pct := id, isScheduled := false } } :=
    wf.of_eq rfl rfl rfl rfl
  have wf' := beginDrain_wellFormed begun idleGrace
  by_cases grace : idleGrace > 0
  · rw [beginDrain_of_grace grace] at wf' ⊢
    refine ⟨wf', rfl, unstarted.nonePending, fun c member => .inr ?_⟩
    apply mem_remaining_of_start member wf.nodup <;> rfl
  · rw [beginDrain_of_not_grace grace] at wf' ⊢
    refine ⟨wf', rfl, unstarted.nonePending, fun c member => .inr ⟨?_, .inl rfl⟩⟩
    apply mem_remaining_of_start member wf.nodup <;> rfl

theorem step_pursuing {s s' : ConnectionManager Conn} {op : Op Conn} (pursuing : Pursuing s)
    (permitted : Afterwards s op) (taken : s.step op = .ok s') : Pursuing s' := by
  have wf := pursuing.toWellFormed
  have wf' := step_wellFormed wf taken
  cases stepCase taken with
  | turn enters done =>
      have entered := enters.wellFormed wf
      cases enters with
      | initiate idle => exact permitted.elim
      | drain idle => exact permitted.elim
      | loop scheduled =>
          have entry : Pursuing { s with drainHelper := { s.drainHelper with isLoopCallbackScheduled := false } } :=
            ⟨entered, pursuing.full, pursuing.nonePending, pursuing.covered⟩
          exact entry.turn done
      | timeout scheduled complete =>
          have begun : Pursuing
              { s with
                drainIterator := DrainHelper.drainStartIterator s
                drainHelper := { s.drainHelper with isScheduled := false, shutdownState := .closeWhenIdle } } := by
            refine ⟨entered, pursuing.full, pursuing.nonePending, fun c member => ?_⟩
            have sent := pursuing.covered c member
            simp only [Covered, complete] at sent
            refine .inr ⟨?_, .inr sent⟩
            exact mem_remaining_of_start member wf.nodup pursuing.full rfl rfl
          exact begun.turn done
  | initiateIgnored busy => exact permitted.elim
  | drainIgnored busy => exact permitted.elim
  | timeoutIgnored early => exact ⟨wf', pursuing.full, pursuing.nonePending, pursuing.covered⟩
  | add => exact permitted.elim
  | @remove x =>
      have effects := removeConnection_effects x s
      have same := effects.sameDrain
      refine ⟨wf', by rw [same.drainHelper, pursuing.full], by rw [same.pendingAdds, pursuing.nonePending], fun c member => ?_⟩
      exact effects.covered wf member (pursuing.covered c (effects.conns_sublist.subset member))
  | @activate x member =>
      refine ⟨wf', pursuing.full, pursuing.nonePending, fun c inside => ?_⟩
      have covered := pursuing.covered c ((mem_push_front wf member c).mp inside)
      exact covered_push_front wf covered permitted rfl rfl rfl rfl rfl rfl
  | @deactivate x member =>
      refine ⟨wf', pursuing.full, pursuing.nonePending, fun c inside => ?_⟩
      have covered := pursuing.covered c ((mem_push_back wf member c).mp inside)
      exact covered_push_back wf covered rfl rfl rfl rfl rfl rfl
  | pendingAdd pending linked => exact permitted.elim
  | pendingAddUnlinked pending unlinked => exact permitted.elim
  | dropConnections => exact permitted.elim
  | dropAll => exact permitted.elim
  | dropIdle => exact permitted.elim

/-- In every run of partial operations that drops connections only after a partial drain: a connection that is
not managed when the last drain has been called is told nothing afterwards, and the first
`initiateGracefulShutdown` begins a drain of all connections, of which each one that stays managed is told. -/
theorem partial_operations_leave_shutdown (timeout : Int) (hasCallback : Bool) (before : List (Op Conn))
    (s : ConnectionManager Conn) (selective : Along step Selective (init timeout hasCallback) before)
    (reached : (init timeout hasCallback).run before = .ok s) :
    (∀ c ∉ s.conns, ∀ after s', Along step (LeavesOut c) s after → s.run after = .ok s' →
      notices c s'.trace = notices c s.trace) ∧
    ∀ idleGrace reaction, ∃ entry, Enters s (.initiateGracefulShutdown idleGrace reaction) reaction entry ∧
      entry.drainHelper.all = true ∧ remaining entry = s.conns ∧
      ∀ first, s.step (.initiateGracefulShutdown idleGrace reaction) = .ok first →
        ∀ ops s', Along step Afterwards first ops → first.run ops = .ok s' →
          s'.drainHelper.all = true ∧ s'.pendingAdds = [] ∧ ∀ c ∈ s'.conns, Covered s' c := by
  have unstarted : NoShutdown s := by
    refine run_invariant (I := NoShutdown) (fun m op m' holds permitted taken => step_noShutdown holds permitted taken)
      ⟨init_wellFormed timeout hasCallback, fun _ => rfl, rfl⟩ selective reached
  constructor
  · intro c unmanaged after s' spared done
    have absent : c ∉ remaining s := fun member => unmanaged (remaining_subset member)
    have start : Apart c s ∧ Untold c s s := ⟨⟨unstarted, fun _ => absent, fun _ => .inl absent⟩, .refl c s⟩
    obtain ⟨-, untold⟩ : Apart c s' ∧ Untold c s s' := by
      refine run_invariant (I := fun m => Apart c m ∧ Untold c s m) ?_ start spared done
      rintro m op m' ⟨apart, untold⟩ permitted taken
      exact (step_apart apart permitted taken).imp_right untold.trans
    exact untold.notices
  · intro idleGrace reaction
    have enters : Enters s (.initiateGracefulShutdown idleGrace reaction) reaction _ :=
      .initiate unstarted.getShutdownState
    have entry := initiated_pursuing unstarted idleGrace
    refine ⟨_, enters, entry.full, ?_, fun first taken ops s' along done => ?_⟩
    · apply remaining_beginDrain
      exact unstarted.nodup
    · have begun : Pursuing first := entry.turn (enters.step.symm.trans taken)
      have pursuing := run_invariant (I := Pursuing) (fun m op m' holds permitted taken => step_pursuing holds permitted taken)
        begun along done
      exact ⟨pursuing.full, pursuing.nonePending, pursuing.covered⟩

instance (s : ConnectionManager Conn) (c : Conn) : Decidable (Immune s c) := by
  unfold Immune
  infer_instance

instance (h : DrainHelper) : Decidable (Active h) := by
  unfold Active
  infer_instance

instance (s : ConnectionManager Conn) : (op : Op Conn) → Decidable (Selective s op)
  | .initiateGracefulShutdown .. | .dropAllConnections _ | .dropIdleConnections .. => inferInstanceAs (Decidable False)
  | .dropConnections .. => inferInstanceAs (Decidable (s.drainHelper.all = false))
  | .addConnection .. | .removeConnection _ | .onActivated _ | .onDeactivated _ | .drainConnections .. | .runLoopCallback _
  | .timeoutExpired _ | .runPendingAdd .. => inferInstanceAs (Decidable True)

instance (c : Conn) (s : ConnectionManager Conn) : (op : Op Conn) → Decidable (LeavesOut c s op)
  | .drainConnections .. => inferInstanceAs (Decidable False)
  | .onActivated d => inferInstanceAs (Decidable (s.drainIterator = some d → ¬ Active s.drainHelper))
  | .onDeactivated d => inferInstanceAs (Decidable (d = c → ¬ Active s.drainHelper))
  | .timeoutExpired _ => inferInstanceAs (Decidable
      (s.drainHelper.shutdownState = .notifyPendingShutdownComplete → c ∈ drainRange s → Immune s c))
  | .runLoopCallback _ => inferInstanceAs (Decidable
      (s.drainHelper.shutdownState = .notifyPendingShutdown → s.drainHelper.isScheduled = false → Immune s c))
  | .addConnection d reaction => inferInstanceAs (Decidable (Selective s (.addConnection d reaction)))
  | .removeConnection d => inferInstanceAs (Decidable (Selective s (.removeConnection d)))
  | .initiateGracefulShutdown idleGrace reaction =>
      inferInstanceAs (Decidable (Selective s (.initiateGracefulShutdown idleGrace reaction)))
  | .dropConnections pct reaction => inferInstanceAs (Decidable (Selective s (.dropConnections pct reaction)))
  | .dropAllConnections reaction => inferInstanceAs (Decidable (Selective s (.dropAllConnections reaction)))
  | .dropIdleConnections num idleTime reaction =>
      inferInstanceAs (Decidable (Selective s (.dropIdleConnections num idleTime reaction)))
  | .runPendingAdd d reaction => inferInstanceAs (Decidable (Selective s (.runPendingAdd d reaction)))

def quiet : Reaction Nat := fun _ => []

def halved : List (Op Nat) :=
  [.addConnection 0 quiet, .addConnection 1 quiet, .drainConnections (· / 2) 5 quiet]

def lateAdd : List (Op Nat) := [.addConnection 2 quiet, .onDeactivated 2, .timeoutExpired quiet]

theorem halved_lateAdd :
    ∃ s, (init 0 false).run halved = .ok s ∧ 2 ∉ s.conns ∧ Ends (fun _ => True) (s.run lateAdd) ∧
      Along step (LeavesOut 2) s lateAdd :=
  Ends.exists_ok (by decide +kernel)

theorem partial_drain_leaves_shutdown :
    ∃ s s' entry, (init 0 false).run halved = .ok s ∧ s.run lateAdd = .ok s' ∧
      notices 2 s'.trace = notices 2 s.trace ∧
      Enters s (.initiateGracefulShutdown 5 quiet) quiet entry ∧ remaining entry = s.conns := by
  obtain ⟨s, reached, absent, ends, spared⟩ := halved_lateAdd
  obtain ⟨s', done, -⟩ := ends.exists_ok
  obtain ⟨untold, begins⟩ := partial_operations_leave_shutdown 0 false halved s (by decide +kernel) reached
  obtain ⟨entry, enters, -, range, -⟩ := begins 5 quiet
  exact ⟨s, s', entry, reached, done, untold 2 absent lateAdd s' spared done, enters, range⟩

/-- Connections are dropped before any have been drained: the connection that is added then is told, and the
shutdown is ignored. After a drain without idle grace the close pass of a later drain tells a connection that
has been added since, and a suspended pass tells a connection that is moved before it. -/
theorem partial_operations_tell_new_connection :
    (∃ s, (init 0 false).run [.addConnection 0 quiet, .dropConnections (fun _ => 0) quiet, .addConnection 1 quiet,
        .initiateGracefulShutdown 5 quiet] = .ok s ∧
      .notifyPendingShutdown 1 ∈ s.trace ∧ 0 ∈ s.conns ∧ s.drainState 0 = .none ∧
      s.drainHelper.isScheduled = false ∧ s.drainHelper.isLoopCallbackScheduled = false) ∧
    (∃ s, (init 0 false).run [.drainConnections (fun _ => 0) 0 quiet, .addConnection 0 quiet, .addConnection 2 quiet,
        .drainConnections (· / 2) 5 quiet, .addConnection 1 quiet, .onDeactivated 1,
        .timeoutExpired quiet] = .ok s ∧ .closeWhenIdle 1 ∈ s.trace) ∧
    ∃ s, (init 0 false).run ((List.range 65).map (.addConnection · quiet) ++
        [.drainConnections id 5 quiet, .addConnection 65 quiet, .onDeactivated 65, .runLoopCallback quiet]) = .ok s ∧
      .notifyPendingShutdown 65 ∈ s.trace :=
  ⟨Ends.exists_ok (by decide +kernel), Ends.exists_ok (by decide +kernel), Ends.exists_ok (by decide +kernel)⟩

end Wangle.Proof.Acceptor
