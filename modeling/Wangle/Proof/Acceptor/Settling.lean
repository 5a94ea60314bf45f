import Wangle.Acceptor.Acceptor
import Wangle.Proof.Acceptor.Callbacks

/-!
# The operations of the acceptor as functions

Where an operation of the acceptor does not fail, its nested callbacks come to a few updates of the state,
after which the acceptor is done if nothing is left.
-/

namespace Wangle.Proof.Acceptor
open Wangle.Acceptor Wangle.Transition

variable {Conn : Type} {a : Acceptor Conn}

def Drainable (a : Acceptor Conn) : Prop :=
  a.state = .draining ∧ a.forceShutdownInProgress = false ∧ a.getNumConnections = 0 ∧ a.numPendingSSLConns = 0

instance : Decidable (Drainable a) := inferInstanceAs (Decidable (_ ∧ _ ∧ _ ∧ _))

def drained (a : Acceptor Conn) : Acceptor Conn := (a.enter .done).resetManager.record .onConnectionsDrained

def settled (a : Acceptor Conn) : Acceptor Conn := if Drainable a then drained a else a

def Held (a : Acceptor Conn) : Prop := a.state ≠ .done → ∃ m, a.downstreamConnectionManager = some m

theorem settled_rule {P : Acceptor Conn → Prop} (idle : Drainable a → P (drained a)) (active : ¬ Drainable a → P a) :
    P (settled a) := by
  unfold settled
  split
  · rename_i drainable
    exact idle drainable
  · rename_i busy
    exact active busy

theorem settled_of_force (force : a.forceShutdownInProgress = true) : settled a = a := by
  refine if_neg fun drainable => ?_
  rw [Drainable, force] at drainable
  cases drainable.2.1

theorem settled_not_drainable (a : Acceptor Conn) : ¬ Drainable (settled a) := by
  refine settled_rule (P := fun b => ¬ Drainable b) (fun _ again => ?_) id
  cases again.1

theorem settled_idem (a : Acceptor Conn) : settled (settled a) = settled a := if_neg (settled_not_drainable a)

theorem Held.settled (held : Held a) : Held (settled a) := by
  refine settled_rule (fun _ unfinished => ?_) fun _ => held
  exact absurd rfl unfinished

theorem checkDrained_eq (held : Held a) (draining : a.state = .draining) : a.checkDrained = .ok (settled a) := by
  obtain ⟨m, manager⟩ := held (by simp [draining])
  unfold Acceptor.checkDrained settled Drainable Acceptor.getNumConnections
  by_cases force : a.forceShutdownInProgress
  · simp [draining, force]
  · by_cases active : m.conns.length ≠ 0 ∨ a.numPendingSSLConns ≠ 0
    · have kept : ¬ (m.conns.length = 0 ∧ a.numPendingSSLConns = 0) := fun ⟨conns, pending⟩ => by omega
      simp only [draining, force, manager, active, kept]
      simp
    · have idle : m.conns.length = 0 ∧ a.numPendingSSLConns = 0 := by omega
      simp [draining, force, manager, idle, drained]

theorem onEmpty_eq (held : Held a) : a.onEmpty = .ok (settled a) := by
  unfold Acceptor.onEmpty
  split
  · rename_i draining
    exact checkDrained_eq held draining
  · rename_i otherwise
    rw [settled, if_neg fun drainable => otherwise drainable.1]

/-! ## What the connection manager tells -/

def Spared : Event (Managed Conn) → Prop
  | .removed (.handshake _) => False
  | .dropConnection (.handshake _) => False
  | _ => True

theorem run_observe [DecidableEq Conn] (held : Held a) {events : List (Event (Managed Conn))}
    (spared : ∀ e ∈ events, Spared e) :
    Transition.run Acceptor.observe a events = .ok (if .onEmpty ∈ events then settled a else a) := by
  induction events generalizing a with
  | nil => simp [Transition.run]
  | cons e events ih =>
      have rest : ∀ e ∈ events, Spared e := fun e member => spared e (List.mem_cons_of_mem _ member)
      have first := spared e List.mem_cons_self
      by_cases empty : e = .onEmpty
      · subst empty
        have observed : a.observe .onEmpty = .ok (settled a) := onEmpty_eq held
        rw [Transition.run, observed]
        simp only
        rw [ih held.settled rest, settled_idem]
        simp
      · have observed : a.observe e = .ok a := by
          unfold Acceptor.observe
          split
          · exact first.elim
          · exact absurd rfl empty
          · rfl
        rw [Transition.run, observed]
        simp only
        rw [ih held rest]
        simp [Ne.symm empty]

/-! ## The end of a handshake -/

def readied : Report → Acceptor Conn → Acceptor Conn
  | .connectionReady nextProtocol secureTransportType _, a => a.connectionReady nextProtocol secureTransportType
  | .connectionError _ _, a => a

theorem readied_rule {P : Acceptor Conn → Prop} (result : Report) (kept : P a)
    (ready : ∀ nextProtocol secureTransportType, ¬ .draining ≤ a.state →
      P (a.record (.onNewConnection nextProtocol secureTransportType))) : P (readied result a) := by
  cases result with
  | connectionReady nextProtocol secureTransportType sslErr =>
      simp only [readied, Acceptor.connectionReady]
      split
      · exact kept
      · rename_i running
        exact ready nextProtocol secureTransportType running
  | connectionError ex sslErr => exact kept

theorem sslConnectionError_eq (held : Held a) :
    a.sslConnectionError =
      if 0 < a.numPendingSSLConns then .ok (settled { a with numPendingSSLConns := a.numPendingSSLConns - 1 })
      else .error .pendingCheck := by
  unfold Acceptor.sslConnectionError
  split
  · exact onEmpty_eq (a := { a with numPendingSSLConns := a.numPendingSSLConns - 1 }) held
  · rfl

theorem refused_eq (held : Held a) :
    Acceptor.sslConnectionError { a with numPendingSSLConns := a.numPendingSSLConns + 1 } = .ok (settled a) := by
  rw [sslConnectionError_eq (a := { a with numPendingSSLConns := a.numPendingSSLConns + 1 }) held,
    if_pos (Nat.succ_pos _)]
  rfl

theorem sslConnectionResult_eq (held : Held a) (result : Report) :
    a.sslConnectionResult result =
      if 0 < a.numPendingSSLConns then
        .ok (settled (readied result { a with numPendingSSLConns := a.numPendingSSLConns - 1 }))
      else .error .pendingCheck := by
  cases result with
  | connectionReady nextProtocol secureTransportType sslErr =>
      simp only [Acceptor.sslConnectionResult, Acceptor.sslConnectionReady, readied]
      split
      · exact onEmpty_eq (readied_rule (.connectionReady nextProtocol secureTransportType sslErr) held fun _ _ _ => held)
      · rfl
  | connectionError ex sslErr => exact sslConnectionError_eq held

theorem settled_numPendingSSLConns (a : Acceptor Conn) : (settled a).numPendingSSLConns = a.numPendingSSLConns :=
  settled_rule (P := fun b => b.numPendingSSLConns = a.numPendingSSLConns) (fun _ => rfl) fun _ => rfl

theorem settled_of_pending (pending : 0 < a.numPendingSSLConns) : settled a = a := by
  refine if_neg fun drainable => ?_
  have none := drainable.2.2.2
  omega

variable [DecidableEq Conn]

def gone (h : Nat) (m : ConnectionManager (Managed Conn)) (a : Acceptor Conn) : Acceptor Conn :=
  { a with
    downstreamConnectionManager := some ({ m with trace := [] }.removeConnection (.handshake h))
    timeouts := if m.isManaged (.handshake h) then a.timeouts.erase h else a.timeouts
    trace := a.trace ++ if m.isManaged (.handshake h) then [.left h] else [] }

def unlinked (h : Nat) (m : ConnectionManager (Managed Conn)) (a : Acceptor Conn) : Acceptor Conn :=
  Acceptor.record (.reported h)
    { gone h m (a.record (.usesManager h)) with
      numPendingSSLConns := a.numPendingSSLConns - 1
      handshakes := a.handshakes.erase h }

omit [DecidableEq Conn] in
theorem callManager_total (hear : Acceptor Conn → Event (Managed Conn) → Except Acceptor.Fault (Acceptor Conn))
    (change : ConnectionManager (Managed Conn) → ConnectionManager (Managed Conn))
    (m : ConnectionManager (Managed Conn)) (a : Acceptor Conn) :
    a.callManager hear (fun m => .ok (change m)) m =
      Transition.run hear { a with downstreamConnectionManager := some (change { m with trace := [] }) }
        (change { m with trace := [] }).trace :=
  rfl

theorem removal_eq (m : ConnectionManager (Managed Conn)) (h : Nat) (a : Acceptor Conn) :
    ∃ emptied, a.callManager Acceptor.observe (fun m => .ok (m.removeConnection (.handshake h))) m =
      .ok (if emptied = true then settled (gone h m a) else gone h m a) := by
  rw [callManager_total]
  cases managed : m.isManaged (.handshake h) with
  | false =>
      have unknown := removeConnection_of_not_managed (s := { m with trace := [] }) managed
      refine ⟨false, ?_⟩
      simp [gone, managed, unknown, Transition.run]
  | true =>
      obtain ⟨calls, equal, observer⟩ := removeConnection_eq (s := { m with trace := [] }) managed
      have spared : ∀ e ∈ calls, Spared e := by
        intro e member
        obtain rfl | rfl := observer e member <;> trivial
      have left : Held (gone h m a) := fun unfinished => ⟨_, rfl⟩
      have observed := run_observe left spared
      refine ⟨decide (.onEmpty ∈ calls), ?_⟩
      simp only [gone, managed, if_true, equal, List.nil_append] at observed ⊢
      simpa [Transition.run, Acceptor.observe, Acceptor.record] using observed

theorem report_none (null : a.downstreamConnectionManager = none) (h : Nat) (result : Report) :
    a.report h result = .error .nullManager := by
  simp [Acceptor.report, Acceptor.record, null]

theorem report_some {m : ConnectionManager (Managed Conn)} (manager : a.downstreamConnectionManager = some m)
    (h : Nat) (result : Report) :
    a.report h result =
      if 0 < a.numPendingSSLConns then .ok (settled (readied result (unlinked h m a)))
      else .error .pendingCheck := by
  obtain ⟨emptied, removal⟩ := removal_eq m h (a.record (.usesManager h))
  have present : (a.record (.usesManager h)).downstreamConnectionManager = some m := manager
  have left : Held (gone h m (a.record (.usesManager h))) := fun _ => ⟨_, rfl⟩
  unfold Acceptor.report
  simp only
  rw [present]
  simp only
  rw [removal]
  simp only
  by_cases pending : 0 < a.numPendingSSLConns
  · have unsettled : settled (gone h m (a.record (.usesManager h))) = gone h m (a.record (.usesManager h)) :=
      settled_of_pending pending
    rw [unsettled, ite_self, sslConnectionResult_eq (by exact left)]
    rfl
  · have held : Held (if emptied = true then settled (gone h m (a.record (.usesManager h)))
        else gone h m (a.record (.usesManager h))) := by
      split
      · exact left.settled
      · exact left
    have count : (if emptied = true then settled (gone h m (a.record (.usesManager h)))
        else gone h m (a.record (.usesManager h))).numPendingSSLConns = a.numPendingSSLConns := by
      split
      · exact settled_numPendingSSLConns _
      · rfl
    rw [sslConnectionResult_eq (by exact held), if_neg (by exact count ▸ pending), if_neg pending]

end Wangle.Proof.Acceptor
