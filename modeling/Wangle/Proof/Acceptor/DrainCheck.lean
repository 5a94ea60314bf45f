import Wangle.Proof.Acceptor.Steps
import Mathlib.Data.List.Perm.Subperm

/-!
# The `CHECK` in `DrainHelper::drainConnections`
-/

namespace Wangle.Proof.Acceptor
open Wangle.Acceptor Wangle.Intrusive Wangle.Transition ConnectionManager

variable {Conn : Type} [DecidableEq Conn]

structure Orderly (s : ConnectionManager Conn) : Prop extends WellFormed s where
  active : s.drainHelper.isLoopCallbackScheduled = true → Active s.drainHelper

def spared (reaction : Reaction Conn) (range : List Conn) : List Conn :=
  range.filter fun x => ∀ c ∈ range, c ≠ x → x ∉ reaction c

/-- While the loop callback of a pass is pending, connections are not dropped, and a new drain does not
finish its first pass at once: more than 64 of its connections are `spared` by the callbacks of the others. -/
def Undisturbed (s : ConnectionManager Conn) : Op Conn → Prop
  | .dropConnections _ _ => s.drainHelper.isLoopCallbackScheduled = false
  | .initiateGracefulShutdown _ reaction =>
      s.drainHelper.getShutdownState = .none → s.drainHelper.isLoopCallbackScheduled = true →
        64 < (spared reaction s.conns).length
  | .drainConnections pct _ reaction =>
      s.drainHelper.getShutdownState = .none → s.drainHelper.isLoopCallbackScheduled = true →
        64 < (spared reaction (s.conns.drop (s.conns.length - min s.conns.length (pct s.conns.length)))).length
  | _ => True

theorem Looped.rest_ne_nil {reaction : Reaction Conn} {n : Nat} {seen rest : List Conn}
    {entry m : ConnectionManager Conn} (looped : Looped reaction n (remaining entry) entry seen rest m)
    (wf : WellFormed entry) (drained : Drained (remaining entry) seen rest entry m)
    (many : n < (spared reaction (remaining entry)).length) : rest ≠ [] := by
  rintro rfl
  have sublist := onward_sublist entry.drainIterator entry.conns
  have visited : spared reaction (remaining entry) ⊆ seen := by
    intro x member
    obtain ⟨ahead, unharmed⟩ := List.mem_filter.mp member
    simp only [decide_eq_true_eq] at unharmed
    by_contra unseen
    have kept := looped.kept wf (sublist.subset ahead) fun c member =>
      unharmed c (drained.seen_subset member) fun same => unseen (same ▸ member)
    exact (drained.covers x ahead kept).elim unseen (by simp)
  have nodup : (spared reaction (remaining entry)).Nodup := (sublist.nodup wf.nodup).filter _
  have bound := (List.Nodup.subperm nodup visited).length_le
  have limit := looped.length_le
  omega

theorem drainConnections_orderly {reaction : Reaction Conn} {entry s' : ConnectionManager Conn}
    (wf : WellFormed entry) (done : DrainHelper.drainConnections reaction entry = .ok s')
    (free : entry.drainHelper.isLoopCallbackScheduled = true → 64 < (spared reaction (remaining entry)).length) :
    Orderly s' := by
  have wf' := drainConnections_wellFormed wf done
  obtain ⟨active, seen, rest, m, looped, drained, finished⟩ := drainConnections_ok wf done
  have same := drained.effects.sameDrain.drainHelper
  have idle (empty : rest = []) : m.drainHelper.isLoopCallbackScheduled ≠ true := by
    rw [same]
    exact fun pending => looped.rest_ne_nil wf drained (free pending) empty
  refine ⟨wf', ?_⟩
  cases finished with
  | more left => exact fun _ => by simpa only [Active, same] using active
  | notified empty notifying waiting => exact fun pending => absurd pending (idle empty)
  | expired empty notifying late => exact fun _ => .inr rfl
  | closed empty closing => exact fun pending => absurd pending (idle empty)

theorem step_orderly {s s' : ConnectionManager Conn} {op : Op Conn} (orderly : Orderly s)
    (permitted : Undisturbed s op) (taken : s.step op = .ok s') : Orderly s' := by
  have wf := orderly.toWellFormed
  have wf' := step_wellFormed wf taken
  have kept (same : s'.drainHelper = s.drainHelper) : Orderly s' :=
    ⟨wf', fun pending => same ▸ orderly.active (same ▸ pending)⟩
  cases stepCase taken with
  | turn enters done =>
      refine drainConnections_orderly (enters.wellFormed wf) done fun pending => ?_
      cases enters with
      | initiate idle =>
          rw [beginDrain_isLoopCallbackScheduled] at pending
          rw [remaining_beginDrain (by exact wf.nodup)]
          exact permitted idle pending
      | drain idle =>
          rw [beginDrain_isLoopCallbackScheduled] at pending
          rw [remaining_beginDrain (by exact wf.nodup)]
          exact permitted idle pending
      | loop scheduled => cases pending
      | timeout scheduled complete =>
          rcases orderly.active pending with active | active <;> rw [complete] at active <;> cases active
  | initiateIgnored busy => exact orderly
  | drainIgnored busy => exact orderly
  | timeoutIgnored early => exact ⟨wf', orderly.active⟩
  | add => exact kept (addConnection_drainHelper _ _ s)
  | remove => exact kept (removeConnection_effects _ s).sameDrain.drainHelper
  | activate member => exact kept rfl
  | deactivate member => exact kept rfl
  | pendingAdd pending linked =>
      exact kept (fireCloseWhenIdle_effects _ _ (linkedAdd s _)).sameDrain.drainHelper
  | pendingAddUnlinked pending unlinked => exact kept rfl
  | @dropConnections pct reaction =>
      refine ⟨wf', fun pending => ?_⟩
      rw [(dropConnections_effects reaction pct s).sameDrain.drainHelper] at pending
      exact absurd pending (by simpa [stopDrainingForShutdown, Undisturbed] using permitted)
  | dropAll =>
      refine ⟨wf', fun pending => ?_⟩
      rw [dropAllConnections_drainHelper wf] at pending
      cases pending
  | dropIdle => exact kept (dropIdleConnections_sameDrain _ _ _ s).drainHelper

theorem drainLoop_ne_checkFailed {reaction : Reaction Conn} {n : Nat} {it : Option Conn}
    {s : ConnectionManager Conn} : DrainHelper.drainLoop reaction n it s ≠ .error .checkFailed := by
  induction n generalizing it s with
  | zero => simp [DrainHelper.drainLoop]
  | succ n ih =>
      cases it with
      | none => simp [DrainHelper.drainLoop]
      | some c =>
          rw [DrainHelper.drainLoop]
          split
          · exact ih
          · simp

theorem drainConnections_ne_checkFailed {reaction : Reaction Conn} {s : ConnectionManager Conn}
    (active : Active s.drainHelper) : DrainHelper.drainConnections reaction s ≠ .error .checkFailed := by
  unfold Active at active
  rw [DrainHelper.drainConnections, if_pos active]
  split
  · rename_i e looped
    rintro ⟨rfl⟩
    exact drainLoop_ne_checkFailed looped
  · simp

omit [DecidableEq Conn] in
theorem beginDrain_active (idleGrace : Int) (s : ConnectionManager Conn) :
    Active (DrainHelper.beginDrain idleGrace s).drainHelper := by
  unfold DrainHelper.beginDrain
  split
  · exact .inl rfl
  · exact .inr rfl

theorem step_ne_checkFailed {s : ConnectionManager Conn} (orderly : Orderly s) (op : Op Conn) :
    s.step op ≠ .error .checkFailed := by
  cases op with
  | initiateGracefulShutdown idleGrace reaction =>
      simp only [step, initiateGracefulShutdown]
      split
      · simp
      · exact drainConnections_ne_checkFailed (beginDrain_active _ _)
  | drainConnections pct idleGrace reaction =>
      simp only [step, ConnectionManager.drainConnections]
      split
      · simp
      · exact drainConnections_ne_checkFailed (beginDrain_active _ _)
  | runLoopCallback reaction =>
      simp only [step, DrainHelper.runLoopCallback]
      split
      · rename_i scheduled
        exact drainConnections_ne_checkFailed (orderly.active scheduled)
      · simp
  | timeoutExpired reaction =>
      simp only [step, DrainHelper.timeoutExpired, DrainHelper.idleGracefulTimeoutExpired]
      split
      · split
        · exact drainConnections_ne_checkFailed (.inr rfl)
        · simp
      · simp
  | onActivated c =>
      simp only [step, onActivated]
      split <;> simp
  | onDeactivated c =>
      simp only [step, onDeactivated]
      split <;> simp
  | runPendingAdd c reaction =>
      simp only [step, runPendingAdd]
      split
      · split <;> simp
      · simp
  | _ => simp [step]

/-- In every run that disturbs no pass that waits for its callback, the `CHECK` holds whenever the drain
helper runs. -/
theorem run_ne_checkFailed (timeout : Int) (hasCallback : Bool) (ops : List (Op Conn))
    (undisturbed : Along step Undisturbed (init timeout hasCallback) ops) :
    (init timeout hasCallback).run ops ≠ .error .checkFailed :=
  run_ne_error (fun _ _ _ orderly permitted taken => step_orderly orderly permitted taken)
    (fun _ op orderly _ => step_ne_checkFailed orderly op)
    ⟨init_wellFormed timeout hasCallback, by simp [init]⟩ undisturbed

instance (s : ConnectionManager Conn) (op : Op Conn) : Decidable (Undisturbed s op) := by
  cases op <;> unfold Undisturbed <;> infer_instance

theorem run_ne_checkFailed_shutdown :
    (init 0 false).run ((List.range 65).map (.addConnection · fun _ => []) ++
      [.initiateGracefulShutdown 50 fun _ => [], .runLoopCallback fun _ => [],
        .dropConnections (fun _ => 0) fun _ => []]) ≠ .error .checkFailed :=
  run_ne_checkFailed 0 false _ (by decide +kernel)

/-- `dropConnections` ends the drain but leaves its loop callback scheduled. -/
theorem drop_during_drain_breaks_check :
    (init 0 false).run ((List.range 65).map (.addConnection · fun _ => []) ++
      [.initiateGracefulShutdown 50 fun _ => [], .dropConnections (fun _ => 0) fun _ => [],
        .runLoopCallback fun _ => []]) = .error .checkFailed :=
  eq_error_of_stuck? (by decide +kernel)

end Wangle.Proof.Acceptor
