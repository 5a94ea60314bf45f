import Wangle.Proof.Acceptor.Lifecycle

/-!
# Draining comes to an end

Dropping a part of the connections leaves `forceShutdownInProgress_` set, and `checkDrained` then does nothing
any more.
-/

namespace Wangle.Proof.Acceptor
open Wangle.Acceptor Wangle.Transition

variable {Conn : Type} {a b : Acceptor Conn}

def StuckDraining (a : Acceptor Conn) : Prop :=
  a.state = .draining ∧ a.getNumConnections = 0 ∧ a.numPendingSSLConns = 0

def stopsAccepting : AcceptorOp Conn → Bool
  | .acceptStopped _ => true
  | _ => false

def dropsSome : AcceptorOp Conn → Bool
  | .dropConnections _ _ _ => true
  | _ => false

/-- The acceptor does not begin to drain with the flag set, and `dropConnections` does not set it while the
acceptor is draining. -/
def Unforced (a : Acceptor Conn) (op : AcceptorOp Conn) : Prop :=
  (stopsAccepting op = true → a.state ≠ .done → a.forceShutdownInProgress = false) ∧
    (dropsSome op = true → a.state ≠ .draining)

instance (a : Acceptor Conn) (op : AcceptorOp Conn) : Decidable (Unforced a op) :=
  inferInstanceAs (Decidable ((_ → _ → _) ∧ (_ → _)))

structure Live (a : Acceptor Conn) : Prop where
  unforced : a.state = .draining → a.forceShutdownInProgress = false
  active : ¬ StuckDraining a

theorem Live.of_eq (live : Live a) (state : b.state = a.state)
    (force : b.forceShutdownInProgress = a.forceShutdownInProgress)
    (connections : b.getNumConnections = a.getNumConnections) (pending : b.numPendingSSLConns = a.numPendingSSLConns) :
    Live b := by
  refine ⟨?_, ?_⟩
  · rw [state, force]
    exact live.unforced
  · unfold StuckDraining
    rw [state, connections, pending]
    exact live.active

theorem live_of_not_draining (otherwise : a.state ≠ .draining) : Live a :=
  ⟨fun draining => absurd draining otherwise, fun stuck => otherwise stuck.1⟩

theorem settled_live (unforced : a.state = .draining → a.forceShutdownInProgress = false) : Live (settled a) := by
  refine settled_rule (fun _ => live_of_not_draining nofun) fun active => ⟨unforced, fun stuck => ?_⟩
  exact active ⟨stuck.1, unforced stuck.1, stuck.2⟩

theorem Live.record (live : Live a) (e : AcceptorEvent) : Live (a.record e) := live.of_eq rfl rfl rfl rfl

theorem Live.scheduleTimeout (live : Live a) (h : Nat) (timeout : Int) : Live (a.scheduleTimeout h timeout) :=
  scheduleTimeout_rule h timeout live (live.of_eq rfl rfl rfl rfl)

theorem Live.timed (live : Live a) (h : Nat) : Live (timed h a) := (live.record _).scheduleTimeout h _

theorem Live.readied (live : Live a) (result : Report) : Live (readied result a) :=
  readied_rule result live fun _ _ _ => live.record _

theorem settled_forceShutdownInProgress (a : Acceptor Conn) :
    (settled a).forceShutdownInProgress = a.forceShutdownInProgress :=
  settled_rule (P := fun b => b.forceShutdownInProgress = a.forceShutdownInProgress) (fun _ => rfl) fun _ => rfl

variable [DecidableEq Conn] {m m' : ConnectionManager (Managed Conn)}

theorem reported_live (unforced : a.state = .draining → a.forceShutdownInProgress = false) (h : Nat) (result : Report) :
    Live (settled (readied result (unlinked h m a))) :=
  settled_live (readied_rule (P := fun b => b.state = .draining → b.forceShutdownInProgress = false) result unforced
    fun _ _ _ => unforced)

theorem called_live (live : Live a) (manager : a.downstreamConnectionManager = some m) (spares : Spares m m') :
    Live (called m' a) := by
  refine called_rule (fun _ => settled_live live.unforced) fun quiet => ⟨live.unforced, ?_⟩
  rintro ⟨draining, empty, pending⟩
  have nothing : m'.conns = [] := List.eq_nil_of_length_eq_zero empty
  refine live.active ⟨draining, ?_, pending⟩
  simp [Acceptor.getNumConnections, manager, (spares.told nothing).resolve_left quiet]

theorem swept_state (late : Nat → Bool) (a : Acceptor Conn) :
    Yields (fun _ => False) (fun b => b.state = a.state) (swept late m' a) := by
  refine swept_rule (I := fun b _ => b.state = a.state) ?_ rfl
  intro b e events reply same heard
  cases heard with
  | spared spared => exact same
  | left => exact same
  | destroyed destroyed => exact nofun
  | late member isLate => exact same
  | null null => exact nofun
  | uncounted member none => exact nofun
  | dropped member prompt manager pending => exact same

theorem Live.joined (live : Live a) (m : ConnectionManager (Managed Conn)) : Live (joined m a) := by
  have joining : Live (joining m a) := ⟨live.unforced, fun stuck => Nat.succ_ne_zero _ stuck.2.2⟩
  exact joining.scheduleTimeout _ _

theorem called_forceShutdownInProgress (m' : ConnectionManager (Managed Conn)) (a : Acceptor Conn) :
    (called m' a).forceShutdownInProgress = a.forceShutdownInProgress :=
  called_rule (P := fun b => b.forceShutdownInProgress = a.forceShutdownInProgress)
    (fun _ => settled_forceShutdownInProgress _) fun _ => rfl

theorem Reported.live {h : Nat} {result : Report} {reply : Except Acceptor.Fault (Acceptor Conn)}
    (reported : Reported h result a reply) (unforced : a.state = .draining → a.forceShutdownInProgress = false) :
    Yields (fun _ => False) Live reply := by
  cases reported with
  | null null => exact nofun
  | uncounted none => exact nofun
  | done manager pending => exact reported_live unforced h result

theorem Outcome.live {op : AcceptorOp Conn} {reply : Except Acceptor.Fault (Acceptor Conn)} (ending : Outcome a op reply)
    (steady : Steady a) (live : Live a) (unforced : Unforced a op) : Yields (fun _ => False) Live reply := by
  cases ending with
  | failed innocent => exact nofun
  | ready => exact live.readied (.connectionReady "" .none none)
  | refused full => exact settled_live live.unforced
  | unmanaged room null => exact nofun
  | started room manager => exact (live.joined _).timed _
  | @startedAtOnce m m' result room manager left =>
      have completed := (live.joined m).record (.completed a.nextHandshake)
      have reported := reported_live (m := host a.nextHandshake m) completed.unforced a.nextHandshake result
      exact reported.timed _
  | completed member reported => exact reported.live live.unforced
  | destroyed scheduled destroyed => exact nofun
  | expiredLate scheduled member => exact live.of_eq rfl rfl rfl rfl
  | expired scheduled member reported => exact reported.live live.unforced
  | ignored => exact live
  | managed manager tended spares => exact called_live live manager spares
  | stoppedAgain null =>
      have done : ¬ a.state ≠ .done := fun unfinished => by
        have present := steady.manager.mpr unfinished
        rw [null] at present
        cases present
      rw [Acceptor.stopped, if_neg done]
      exact live
  | @stopped reaction m m' manager tended spares =>
      have unfinished : a.state ≠ .done := steady.manager.mp (by rw [manager]; rfl)
      have flag : (called m' a).forceShutdownInProgress = false := by
        rw [called_forceShutdownInProgress]
        exact unforced.1 rfl unfinished
      exact stopped_rule (called_live live manager spares) fun _ => settled_live fun _ => flag
  | dropped manager tended sweeps =>
      refine (swept_state _ a).imp fun b same => live_of_not_draining ?_
      exact same ▸ unforced.2 rfl
  | droppedAllAgain null pending => exact live_of_not_draining nofun
  | droppedAllUncounted null pending => exact nofun
  | droppedAllFailed manager tended sweeps failed => exact nofun
  | droppedAllPending manager tended sweeps empty heard pending => exact nofun
  | droppedAll manager tended sweeps empty heard pending => exact live_of_not_draining nofun

/-- Whoever keeps to `Unforced` never finds the acceptor draining with nothing left to drain. -/
theorem run_not_stuckDraining (config : AcceptorConfig) (gracefulShutdownTimeout : Int) (ops : List (AcceptorOp Conn))
    (unforced : Along Acceptor.step Unforced (Acceptor.initialised config gracefulShutdownTimeout) ops)
    (a : Acceptor Conn) (reached : Acceptor.run (Acceptor.initialised config gracefulShutdownTimeout) ops = .ok a) :
    ¬ StuckDraining a := by
  have start : Live (Acceptor.initialised config gracefulShutdownTimeout : Acceptor Conn) := live_of_not_draining nofun
  have kept := run_yields (fun a op underway => (outcome underway.steady op).live underway.steady) start unforced
  exact (kept.of_ok reached).active

theorem run_not_stuckDraining_handshake :
    ∃ a, Acceptor.run (Acceptor.initialised {} 5000 : Acceptor Nat)
        [.connectionAccepted true none, .addConnection 7 fun _ => [], .acceptStopped fun _ => [], .removeConnection 7,
          .handshakeTimeout 0 false] = .ok a ∧ a.state = .done ∧ ¬ StuckDraining a :=
  (Ends.exists_ok (Q := fun a => a.state = .done) (by decide)).imp fun a ⟨reached, done⟩ =>
    ⟨reached, done, run_not_stuckDraining {} 5000 _ (by decide) a reached⟩

theorem dropped_then_stopped_stuckDraining :
    ∃ a, Acceptor.run (Acceptor.initialised {} 5000 : Acceptor Nat)
        [.addConnection 7 fun _ => [], .addConnection 8 fun _ => [],
          .dropConnections (· / 2) (fun _ => []) fun _ => false, .acceptStopped fun _ => [], .removeConnection 7] = .ok a ∧
      StuckDraining a :=
  ⟨_, rfl, rfl, rfl, rfl⟩

end Wangle.Proof.Acceptor
