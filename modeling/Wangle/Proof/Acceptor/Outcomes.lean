import Wangle.Proof.Acceptor.ManagedHandshakes

/-!
# What an operation of the acceptor can do
-/

namespace Wangle.Proof.Acceptor
open Wangle.Acceptor Wangle.Transition ConnectionManager

variable {Conn : Type} {a : Acceptor Conn} {m m' : ConnectionManager (Managed Conn)}

structure Tended (m : ConnectionManager (Managed Conn)) : Prop where
  wellFormed : WellFormed m
  observed : m.hasCallback = true

structure Steady (a : Acceptor Conn) : Prop where
  manager : a.downstreamConnectionManager.isSome = true ↔ a.state ≠ .done
  tended : ∀ m, a.downstreamConnectionManager = some m → Tended m

theorem Steady.held (steady : Steady a) : Held a :=
  fun unfinished => Option.isSome_iff_exists.mp (steady.manager.mpr unfinished)

theorem Tended.quiet (tended : Tended m) : Tended { m with trace := [] } :=
  ⟨tended.wellFormed.of_eq rfl rfl rfl rfl, tended.observed⟩

variable [DecidableEq Conn]

theorem Tended.removed (tended : Tended m) (h : Nat) :
    Tended (ConnectionManager.removeConnection (.handshake h) { m with trace := [] }) :=
  ⟨tended.quiet.wellFormed.removeConnection _, (removeConnection_effects _ _).sameDrain.hasCallback.trans tended.observed⟩

/-! ## A handshake manager comes -/

structure Hosts (h : Nat) (m m' : ConnectionManager (Managed Conn)) : Prop extends Listed m' where
  observed : m'.hasCallback = true
  conns : ∀ x, x ∈ m'.conns ↔ x = .handshake h ∨ x ∈ m.conns
  spared : ∀ e ∈ m'.trace, Spared e
  nonempty : .onEmpty ∉ m'.trace

omit [DecidableEq Conn] in
theorem Hosts.record {h : Nat} {e : Event (Managed Conn)} (hosts : Hosts h m m') (spared : Spared e)
    (other : e ≠ .onEmpty) : Hosts h m (m'.record e) := by
  refine ⟨⟨hosts.nodup, hosts.managed⟩, hosts.observed, hosts.conns, ?_, ?_⟩
  · intro x member
    obtain old | new := List.mem_append.mp member
    · exact hosts.spared x old
    · rwa [List.mem_singleton.mp new]
  · simpa [ConnectionManager.record, other.symm] using hosts.nonempty

theorem hosts_stable (h : Nat) (m : ConnectionManager (Managed Conn)) : Stable (fun _ => False) (Hosts h m) where
  same hosts alike := by
    refine ⟨⟨?_, ?_⟩, ?_, ?_, ?_, ?_⟩
    · exact alike.conns ▸ hosts.nodup
    · exact alike.conns ▸ alike.managed ▸ hosts.managed
    · exact alike.hasCallback ▸ hosts.observed
    · exact alike.conns ▸ hosts.conns
    · exact alike.trace ▸ hosts.spared
    · exact alike.trace ▸ hosts.nonempty
  notify _ hosts := hosts.record trivial nofun
  close _ hosts := hosts.record trivial nofun
  remove _ impossible := impossible.elim

def host (h : Nat) (m : ConnectionManager (Managed Conn)) : ConnectionManager (Managed Conn) :=
  ConnectionManager.addConnection (fun _ => []) (.handshake h) { m with trace := [] }

theorem host_hosts (tended : Tended m) (h : Nat) : Hosts h m (host h m) := by
  have listed := (inserted_wellFormed tended.quiet.wellFormed (.handshake h)).toListed
  refine (hosts_stable h m).addConnection (by simp) ?_
  cases managed : m.isManaged (.handshake h) with
  | true =>
      have member := (tended.wellFormed.managed (.handshake h)).mp managed
      have known : inserted (.handshake h) { m with trace := [] } = { m with trace := [] } := by
        simp [inserted, managed]
      rw [known] at listed ⊢
      refine ⟨listed, tended.observed, fun x => ⟨.inr, ?_⟩, by simp, by simp⟩
      rintro (rfl | inside)
      · exact member
      · exact inside
  | false =>
      obtain ⟨calls, equal, observer⟩ := insertConnection_eq (.handshake h) { m with trace := [] }
      have new : inserted (.handshake h) { m with trace := [] } =
          insertConnection (.handshake h) { m with trace := [] } := by
        simp [inserted, managed]
      rw [new, equal] at listed ⊢
      refine ⟨listed, tended.observed, fun x => List.mem_cons, ?_, ?_⟩
      · intro e member
        simp only [List.nil_append, List.mem_cons] at member
        obtain rfl | call := member
        · trivial
        · rw [observer e call]
          trivial
      · intro member
        simp only [List.nil_append, List.mem_cons, reduceCtorEq, false_or] at member
        cases observer _ member

theorem host_tended (tended : Tended m) (h : Nat) : Tended (host h m) :=
  ⟨addConnection_wellFormed tended.quiet.wellFormed _ _, (host_hosts tended h).observed⟩

def joining (m : ConnectionManager (Managed Conn)) (a : Acceptor Conn) : Acceptor Conn :=
  { a with
    numPendingSSLConns := a.numPendingSSLConns + 1
    downstreamConnectionManager := some (host a.nextHandshake m)
    nextHandshake := a.nextHandshake + 1
    handshakes := a.handshakes ++ [a.nextHandshake]
    trace := a.trace ++ [.started a.nextHandshake] ++ [.usesManager a.nextHandshake] }

def joined (m : ConnectionManager (Managed Conn)) (a : Acceptor Conn) : Acceptor Conn :=
  (joining m a).scheduleTimeout a.nextHandshake a.accConfig.connectionIdleTimeout

def timed (h : Nat) (a : Acceptor Conn) : Acceptor Conn :=
  (a.record (.usesManager h)).scheduleTimeout h a.accConfig.sslHandshakeTimeout

omit [DecidableEq Conn] in
theorem scheduleTimeout_rule {P : Acceptor Conn → Prop} (h : Nat) (timeout : Int) (kept : P a)
    (scheduled : P ({ a with timeouts := a.timeouts.insert h }.record (.scheduledTimeout h))) :
    P (a.scheduleTimeout h timeout) := by
  unfold Acceptor.scheduleTimeout
  split
  · exact scheduled
  · exact kept

omit [DecidableEq Conn] in
theorem scheduleTimeout_manager (h : Nat) (timeout : Int) (a : Acceptor Conn) :
    (a.scheduleTimeout h timeout).downstreamConnectionManager = a.downstreamConnectionManager :=
  scheduleTimeout_rule (P := fun b => b.downstreamConnectionManager = a.downstreamConnectionManager) h timeout rfl rfl

omit [DecidableEq Conn] in
theorem startHandshakeTimeout_eq (h : Nat) (manager : a.downstreamConnectionManager = some m) :
    a.startHandshakeTimeout h = .ok (timed h a) := by
  have present : (a.record (.usesManager h)).downstreamConnectionManager = some m := manager
  simp only [Acceptor.startHandshakeTimeout, present]
  rfl

theorem joined_handshakes (m : ConnectionManager (Managed Conn)) (a : Acceptor Conn) :
    (joined m a).handshakes = a.handshakes ++ [a.nextHandshake] :=
  scheduleTimeout_rule (P := fun b => b.handshakes = a.handshakes ++ [a.nextHandshake]) _ _ rfl rfl

def atOnce (result : Report) (m : ConnectionManager (Managed Conn)) (a : Acceptor Conn) : Acceptor Conn :=
  settled <| readied result <| unlinked a.nextHandshake (host a.nextHandshake m) <|
    (joined m a).record (.completed a.nextHandshake)

omit [DecidableEq Conn] in
theorem scheduleTimeout_numPendingSSLConns (h : Nat) (timeout : Int) (a : Acceptor Conn) :
    (a.scheduleTimeout h timeout).numPendingSSLConns = a.numPendingSSLConns :=
  scheduleTimeout_rule (P := fun b => b.numPendingSSLConns = a.numPendingSSLConns) h timeout rfl rfl

theorem atOnce_eq (result : Report) (m : ConnectionManager (Managed Conn)) (a : Acceptor Conn) :
    ((joined m a).record (.completed a.nextHandshake)).report a.nextHandshake result = .ok (atOnce result m a) := by
  have manager : ((joined m a).record (.completed a.nextHandshake)).downstreamConnectionManager =
      some (host a.nextHandshake m) :=
    scheduleTimeout_manager _ _ _
  have pending : ((joined m a).record (.completed a.nextHandshake)).numPendingSSLConns = a.numPendingSSLConns + 1 :=
    scheduleTimeout_numPendingSSLConns _ _ _
  rw [report_some manager, if_pos (by omega)]
  rfl

section Start
variable (tended : Tended m) (manager : a.downstreamConnectionManager = some m)
include tended

theorem joining_observed : Transition.run Acceptor.observe (joining m a) (host a.nextHandshake m).trace =
    .ok (joining m a) := by
  have hosts := host_hosts tended a.nextHandshake
  rw [run_observe (fun _ => ⟨_, rfl⟩) hosts.spared, if_neg hosts.nonempty]

include manager

theorem startHandshakeManager_none :
    Acceptor.startHandshakeManager none { a with numPendingSSLConns := a.numPendingSSLConns + 1 } =
      .ok (timed a.nextHandshake (joined m a)) := by
  have observed := joining_observed (a := a) tended
  simp only [joining, host] at observed
  simp only [Acceptor.startHandshakeManager, Acceptor.record, manager, callManager_total, observed]
  exact startHandshakeTimeout_eq _ (scheduleTimeout_manager _ _ (joining m a))

theorem startHandshakeManager_some (result : Report) :
    Acceptor.startHandshakeManager (some result) { a with numPendingSSLConns := a.numPendingSSLConns + 1 } =
      (atOnce result m a).startHandshakeTimeout a.nextHandshake := by
  have observed := joining_observed (a := a) tended
  have reported := atOnce_eq result m a
  simp only [joining, host] at observed
  simp only [joined, joining, host, Acceptor.record] at reported
  simp only [Acceptor.startHandshakeManager, Acceptor.record, manager, callManager_total, observed, reported]

end Start

/-! ## Calls of the connection manager -/

def called (m' : ConnectionManager (Managed Conn)) (a : Acceptor Conn) : Acceptor Conn :=
  if .onEmpty ∈ m'.trace then settled { a with downstreamConnectionManager := some m' }
  else { a with downstreamConnectionManager := some m' }

theorem called_rule {P : Acceptor Conn → Prop}
    (empty : .onEmpty ∈ m'.trace → P (settled { a with downstreamConnectionManager := some m' }))
    (quiet : .onEmpty ∉ m'.trace → P { a with downstreamConnectionManager := some m' }) : P (called m' a) := by
  unfold called
  split
  · rename_i told
    exact empty told
  · rename_i untold
    exact quiet untold

theorem called_held (m' : ConnectionManager (Managed Conn)) (a : Acceptor Conn) : Held (called m' a) := by
  have held : Held { a with downstreamConnectionManager := some m' } := fun _ => ⟨m', rfl⟩
  exact called_rule (fun _ => held.settled) fun _ => held

theorem callManager_routine {op : Op (Managed Conn)} (tended : Tended m) (routine : Routine op) (a : Acceptor Conn) :
    (∃ stuck, a.callManager Acceptor.observe (·.step op) m = .error (.manager stuck)) ∨
      ∃ m', Tended m' ∧ Spares m m' ∧ a.callManager Acceptor.observe (·.step op) m = .ok (called m' a) := by
  simp only [Acceptor.callManager]
  cases taken : step { m with trace := [] } op with
  | error stuck => exact .inl ⟨stuck, rfl⟩
  | ok m' =>
      have spares := step_spares tended.wellFormed tended.observed routine taken
      have held : Held { a with downstreamConnectionManager := some m' } := fun _ => ⟨m', rfl⟩
      refine .inr ⟨m', ⟨step_wellFormed tended.quiet.wellFormed taken, spares.observed⟩, spares, ?_⟩
      exact run_observe held spares.spared

def stopped (a : Acceptor Conn) : Acceptor Conn := if a.state ≠ .done then settled (a.enter .draining) else a

omit [DecidableEq Conn] in
theorem stopped_rule {P : Acceptor Conn → Prop} (done : P a)
    (entered : a.state ≠ .done → P (settled (a.enter .draining))) : P (stopped a) := by
  unfold stopped
  split
  · rename_i unfinished
    exact entered unfinished
  · exact done

omit [DecidableEq Conn] in
theorem stopped_eq (held : Held a) :
    (if a.state ≠ .done then (a.enter .draining).checkDrained else .ok a) = .ok (stopped a) := by
  unfold stopped
  split
  · rename_i unfinished
    exact checkDrained_eq (fun _ => held unfinished) rfl
  · rfl

/-! ## Operations -/

inductive Reported (h : Nat) (result : Report) (a : Acceptor Conn) : Except Acceptor.Fault (Acceptor Conn) → Prop
  | null (null : a.downstreamConnectionManager = none) : Reported h result a (.error .nullManager)
  | uncounted (none : a.numPendingSSLConns = 0) : Reported h result a (.error .pendingCheck)
  | done {m : ConnectionManager (Managed Conn)} (manager : a.downstreamConnectionManager = some m)
      (pending : 0 < a.numPendingSSLConns) :
      Reported h result a (.ok (settled (readied result (unlinked h m a))))

theorem report_reported (h : Nat) (result : Report) (a : Acceptor Conn) : Reported h result a (a.report h result) := by
  cases manager : a.downstreamConnectionManager with
  | none =>
      rw [report_none manager]
      exact .null manager
  | some m =>
      rw [report_some manager]
      split
      · rename_i pending
        exact .done manager pending
      · rename_i none
        exact .uncounted (Nat.eq_zero_of_not_pos none)

def Innocent : Acceptor.Fault → Prop
  | .emptyCheck => True
  | .undefined => True
  | .manager _ => True
  | .notEnabled => True
  | _ => False

def elapsed (h : Nat) (a : Acceptor Conn) : Acceptor Conn :=
  { a with timeouts := a.timeouts.erase h }.record (.timeoutExpired h)

def swept (late : Nat → Bool) (m' : ConnectionManager (Managed Conn)) (a : Acceptor Conn) :
    Except Acceptor.Fault (Acceptor Conn) :=
  Transition.run (Acceptor.hear late)
    { a with forceShutdownInProgress := true, downstreamConnectionManager := some m' } m'.trace

inductive Heard (late : Nat → Bool) (a : Acceptor Conn) :
    Event (Managed Conn) → Except Acceptor.Fault (Acceptor Conn) → Prop
  | spared {e : Event (Managed Conn)} (spared : Spared e) : Heard late a e (.ok a)
  | left {h : Nat} :
      Heard late a (.removed (.handshake h)) (.ok ({ a with timeouts := a.timeouts.erase h }.record (.left h)))
  | destroyed {h : Nat} (destroyed : h ∉ a.handshakes) :
      Heard late a (.dropConnection (.handshake h)) (.error .destroyed)
  | late {h : Nat} (member : h ∈ a.handshakes) (isLate : late h = true) :
      Heard late a (.dropConnection (.handshake h)) (.ok (a.record (.dropped h)))
  | null {h : Nat} (null : a.downstreamConnectionManager = none) :
      Heard late a (.dropConnection (.handshake h)) (.error .nullManager)
  | uncounted {h : Nat} (member : h ∈ a.handshakes) (none : a.numPendingSSLConns = 0) :
      Heard late a (.dropConnection (.handshake h)) (.error .pendingCheck)
  | dropped {h : Nat} {m : ConnectionManager (Managed Conn)} (member : h ∈ a.handshakes) (prompt : late h = false)
      (manager : a.downstreamConnectionManager = some m) (pending : 0 < a.numPendingSSLConns) :
      Heard late a (.dropConnection (.handshake h)) (.ok (unlinked h m (a.record (.dropped h))))

theorem hear_heard (late : Nat → Bool) (held : Held a) (force : a.forceShutdownInProgress = true)
    (e : Event (Managed Conn)) : Heard late a e (a.hear late e) := by
  have observed (spared : ∀ h, e ≠ .dropConnection (.handshake h)) : Heard late a e (a.observe e) := by
    unfold Acceptor.observe
    split
    · exact .left
    · rw [onEmpty_eq held, settled_of_force force]
      exact .spared trivial
    · rename_i removed empty
      refine .spared ?_
      unfold Spared
      split
      · exact removed _ rfl
      · exact spared _ rfl
      · trivial
  unfold Acceptor.hear
  split
  · rename_i h
    unfold Acceptor.dropHandshake
    split
    · rename_i member
      split
      · rename_i isLate
        exact .late member isLate
      · rename_i prompt
        have reported := report_reported h (.connectionError (.ssl .noError) (some .noError)) (a.record (.dropped h))
        generalize Acceptor.report h _ (a.record (.dropped h)) = reply at reported
        cases reported with
        | null null => exact .null null
        | uncounted none => exact .uncounted member none
        | done manager pending =>
            rw [settled_of_force (by exact force)]
            exact .dropped member (by simpa using prompt) manager pending
    · rename_i destroyed
      exact .destroyed destroyed
  · rename_i other
    exact observed fun h equal => other h equal

theorem swept_rule {late : Nat → Bool} {bad : Acceptor.Fault → Prop}
    {I : Acceptor Conn → List (Event (Managed Conn)) → Prop}
    (kept : ∀ a e events reply, I a (e :: events) → Heard late a e reply → Yields bad (I · events) reply)
    (start : I { a with forceShutdownInProgress := true, downstreamConnectionManager := some m' } m'.trace) :
    Yields bad (I · []) (swept late m' a) := by
  have heard : ∀ events (b : Acceptor Conn), Held b → b.forceShutdownInProgress = true → I b events →
      Yields bad (I · []) (Transition.run (Acceptor.hear late) b events) := by
    intro events
    induction events with
    | nil => exact fun b held force holds => holds
    | cons e events ih =>
        intro b held force holds
        have first := hear_heard late held force e
        have next := kept b e events _ holds first
        rw [Transition.run]
        cases taken : b.hear late e with
        | error fault => rwa [taken] at next
        | ok c =>
            rw [taken] at first next
            cases first with
            | spared spared => exact ih _ held force next
            | left => exact ih _ held force next
            | late member isLate => exact ih _ held force next
            | dropped member prompt manager pending => exact ih _ (fun _ => ⟨_, rfl⟩) force next
  exact heard m'.trace _ (fun _ => ⟨m', rfl⟩) rfl start

inductive Outcome (a : Acceptor Conn) : AcceptorOp Conn → Except Acceptor.Fault (Acceptor Conn) → Prop
  | failed {op : AcceptorOp Conn} {fault : Acceptor.Fault} (innocent : Innocent fault) : Outcome a op (.error fault)
  | ready {result : Option Report} :
      Outcome a (.connectionAccepted false result) (.ok (a.connectionReady "" .none))
  | refused {result : Option Report} (full : a.accConfig.maxConcurrentSSLHandshakes < a.numPendingSSLConns + 1) :
      Outcome a (.connectionAccepted true result) (.ok (settled a))
  | unmanaged {result : Option Report} (room : a.numPendingSSLConns + 1 ≤ a.accConfig.maxConcurrentSSLHandshakes)
      (null : a.downstreamConnectionManager = none) :
      Outcome a (.connectionAccepted true result) (.error .nullManager)
  | started {m : ConnectionManager (Managed Conn)}
      (room : a.numPendingSSLConns + 1 ≤ a.accConfig.maxConcurrentSSLHandshakes)
      (manager : a.downstreamConnectionManager = some m) :
      Outcome a (.connectionAccepted true none) (.ok (timed a.nextHandshake (joined m a)))
  | startedAtOnce {m m' : ConnectionManager (Managed Conn)} {result : Report}
      (room : a.numPendingSSLConns + 1 ≤ a.accConfig.maxConcurrentSSLHandshakes)
      (manager : a.downstreamConnectionManager = some m)
      (left : (atOnce result m a).downstreamConnectionManager = some m') :
      Outcome a (.connectionAccepted true (some result)) (.ok (timed a.nextHandshake (atOnce result m a)))
  | completed {h : Nat} {result : Report} {reply : Except Acceptor.Fault (Acceptor Conn)} (member : h ∈ a.handshakes)
      (reported : Reported h result (a.record (.completed h)) reply) : Outcome a (.handshakeCompleted h result) reply
  | destroyed {h : Nat} {late : Bool} (scheduled : h ∈ a.timeouts) (destroyed : h ∉ a.handshakes) :
      Outcome a (.handshakeTimeout h late) (.error .destroyed)
  | expiredLate {h : Nat} (scheduled : h ∈ a.timeouts) (member : h ∈ a.handshakes) :
      Outcome a (.handshakeTimeout h true) (.ok (elapsed h a))
  | expired {h : Nat} {result : Report} {reply : Except Acceptor.Fault (Acceptor Conn)} (scheduled : h ∈ a.timeouts)
      (member : h ∈ a.handshakes) (reported : Reported h result (elapsed h a) reply) :
      Outcome a (.handshakeTimeout h false) reply
  | ignored {op : AcceptorOp Conn} : Outcome a op (.ok a)
  | managed {op : AcceptorOp Conn} {m m' : ConnectionManager (Managed Conn)}
      (manager : a.downstreamConnectionManager = some m) (tended : Tended m') (spares : Spares m m') :
      Outcome a op (.ok (called m' a))
  | stoppedAgain {reaction : Reaction Conn} (null : a.downstreamConnectionManager = none) :
      Outcome a (.acceptStopped reaction) (.ok (stopped a))
  | stopped {reaction : Reaction Conn} {m m' : ConnectionManager (Managed Conn)}
      (manager : a.downstreamConnectionManager = some m) (tended : Tended m') (spares : Spares m m') :
      Outcome a (.acceptStopped reaction) (.ok (stopped (called m' a)))
  | dropped {pctToDrop : Nat → Nat} {reaction : Reaction Conn} {late : Nat → Bool}
      {m m' : ConnectionManager (Managed Conn)} (manager : a.downstreamConnectionManager = some m)
      (tended : Tended m') (sweeps : Sweeps m m') :
      Outcome a (.dropConnections pctToDrop reaction late) (swept late m' a)
  | droppedAllAgain {reaction : Reaction Conn} {late : Nat → Bool} (null : a.downstreamConnectionManager = none)
      (pending : a.numPendingSSLConns = 0) :
      Outcome a (.dropAllConnections reaction late) (.ok ((a.enter .done).record .onConnectionsDrained))
  | droppedAllUncounted {reaction : Reaction Conn} {late : Nat → Bool} (null : a.downstreamConnectionManager = none)
      (pending : a.numPendingSSLConns ≠ 0) : Outcome a (.dropAllConnections reaction late) (.error .pendingCheck)
  | droppedAllFailed {reaction : Reaction Conn} {late : Nat → Bool} {m m' : ConnectionManager (Managed Conn)}
      {fault : Acceptor.Fault} (manager : a.downstreamConnectionManager = some m) (tended : Tended m')
      (sweeps : Sweeps m m') (failed : swept late m' a = .error fault) :
      Outcome a (.dropAllConnections reaction late) (.error fault)
  | droppedAllPending {reaction : Reaction Conn} {late : Nat → Bool} {m m' : ConnectionManager (Managed Conn)}
      {b : Acceptor Conn} (manager : a.downstreamConnectionManager = some m) (tended : Tended m')
      (sweeps : Sweeps m m') (empty : m'.conns = []) (heard : swept late m' a = .ok b)
      (pending : b.numPendingSSLConns ≠ 0) : Outcome a (.dropAllConnections reaction late) (.error .pendingCheck)
  | droppedAll {reaction : Reaction Conn} {late : Nat → Bool} {m m' : ConnectionManager (Managed Conn)}
      {b : Acceptor Conn} (manager : a.downstreamConnectionManager = some m) (tended : Tended m')
      (sweeps : Sweeps m m') (empty : m'.conns = []) (heard : swept late m' a = .ok b)
      (pending : b.numPendingSSLConns = 0) :
      Outcome a (.dropAllConnections reaction late) (.ok ((b.resetManager.enter .done).record .onConnectionsDrained))

theorem processEstablishedConnection_null (room : a.numPendingSSLConns + 1 ≤ a.accConfig.maxConcurrentSSLHandshakes)
    (null : a.downstreamConnectionManager = none) (result : Option Report) :
    a.processEstablishedConnection true result = .error .nullManager := by
  simp only [Acceptor.processEstablishedConnection, if_true, if_neg (Nat.not_lt.mpr room)]
  simp [Acceptor.startHandshakeManager, Acceptor.record, null]

section Outcome
variable (steady : Steady a)
include steady

theorem useManager_outcome {op : AcceptorOp Conn} {managerOp : Op (Managed Conn)} (routine : Routine managerOp) :
    Outcome a op (a.useManager managerOp) := by
  unfold Acceptor.useManager
  split
  · exact .failed trivial
  · rename_i m manager
    obtain ⟨stuck, failed⟩ | ⟨m', tended, spares, equal⟩ := callManager_routine (steady.tended m manager) routine a
    · exact failed ▸ .failed trivial
    · exact equal ▸ .managed manager tended spares

theorem addConnection_outcome (c : Conn) (reaction : Reaction Conn) :
    Outcome a (.addConnection c reaction) (a.addConnection c reaction) := by
  unfold Acceptor.addConnection
  split
  · exact .failed trivial
  · rename_i m manager
    have routine : Routine (.addConnection (.connection c) (Acceptor.react reaction)) := ⟨trivial, react_polite reaction⟩
    obtain ⟨stuck, failed⟩ | ⟨m', tended, spares, equal⟩ := callManager_routine (steady.tended m manager) routine a
    · simp only [step] at failed
      rw [failed]
      exact .failed trivial
    · simp only [step] at equal
      rw [equal]
      simp only
      split
      · exact .managed manager tended spares
      · exact .failed trivial

theorem drainConnections_outcome (pctToDrain : Nat → Nat) (reaction : Reaction Conn) :
    Outcome a (.drainConnections pctToDrain reaction) (a.drainConnections pctToDrain reaction) := by
  unfold Acceptor.drainConnections
  split
  · exact .ignored
  · rename_i m manager
    have routine : Routine (.drainConnections pctToDrain a.gracefulShutdownTimeout (Acceptor.react reaction)) :=
      react_polite reaction
    obtain ⟨stuck, failed⟩ | ⟨m', tended, spares, equal⟩ := callManager_routine (steady.tended m manager) routine a
    · exact failed ▸ .failed trivial
    · exact equal ▸ .managed manager tended spares

theorem acceptStopped_outcome (reaction : Reaction Conn) :
    Outcome a (.acceptStopped reaction) (a.acceptStopped reaction) := by
  unfold Acceptor.acceptStopped Acceptor.drainAllConnections
  cases manager : a.downstreamConnectionManager with
  | none =>
      simp only
      rw [stopped_eq steady.held]
      exact .stoppedAgain manager
  | some m =>
      have routine : Routine (.initiateGracefulShutdown a.gracefulShutdownTimeout (Acceptor.react reaction)) :=
        react_polite reaction
      obtain ⟨stuck, failed⟩ | ⟨m', tended, spares, equal⟩ := callManager_routine (steady.tended m manager) routine a
      · simp only [step] at failed
        simp only [failed]
        exact .failed trivial
      · simp only [step] at equal
        simp only [equal]
        rw [stopped_eq (called_held m' a)]
        exact .stopped manager tended spares

theorem processEstablishedConnection_outcome (shouldDoSSL : Bool) (result : Option Report) :
    Outcome a (.connectionAccepted shouldDoSSL result) (a.processEstablishedConnection shouldDoSSL result) := by
  cases shouldDoSSL with
  | false => exact .ready
  | true =>
      by_cases full : a.accConfig.maxConcurrentSSLHandshakes < a.numPendingSSLConns + 1
      · simp only [Acceptor.processEstablishedConnection, if_true, if_pos full]
        rw [refused_eq steady.held]
        exact .refused full
      · have room := Nat.le_of_not_lt full
        cases manager : a.downstreamConnectionManager with
        | none =>
            rw [processEstablishedConnection_null room manager]
            exact .unmanaged room manager
        | some m =>
            have tended := steady.tended m manager
            simp only [Acceptor.processEstablishedConnection, if_true, if_neg full]
            cases result with
            | none =>
                rw [startHandshakeManager_none tended manager]
                exact .started room manager
            | some result =>
                rw [startHandshakeManager_some tended manager]
                cases left : (atOnce result m a).downstreamConnectionManager with
                | none =>
                    have null : (atOnce result m a).startHandshakeTimeout a.nextHandshake = .error .undefined := by
                      simp [Acceptor.startHandshakeTimeout, Acceptor.record, left]
                    rw [null]
                    exact .failed trivial
                | some m' =>
                    rw [startHandshakeTimeout_eq _ left]
                    exact .startedAtOnce room manager left

theorem dropConnections_outcome (pctToDrop : Nat → Nat) (reaction : Reaction Conn) (late : Nat → Bool) :
    Outcome a (.dropConnections pctToDrop reaction late) (a.dropConnections pctToDrop reaction late) := by
  unfold Acceptor.dropConnections
  split
  · exact .ignored
  · rename_i m manager
    have tended := steady.tended m manager
    have sweeps := dropConnections_sweeps (react_polite reaction) pctToDrop tended.wellFormed.toListed tended.observed
    have wf := (dropConnections_effects (Acceptor.react reaction) pctToDrop { m with trace := [] }).wellFormed
      (tended.wellFormed.of_eq rfl rfl rfl rfl)
    exact .dropped manager ⟨wf, sweeps.observed⟩ sweeps

theorem dropAllConnections_outcome (reaction : Reaction Conn) (late : Nat → Bool) :
    Outcome a (.dropAllConnections reaction late) (a.dropAllConnections reaction late) := by
  unfold Acceptor.dropAllConnections Acceptor.dropManager
  cases manager : a.downstreamConnectionManager with
  | none =>
      simp only
      split
      · rename_i pending
        exact .droppedAllAgain manager pending
      · rename_i pending
        exact .droppedAllUncounted manager pending
  | some m =>
      have tended := steady.tended m manager
      obtain ⟨sweeps, empty⟩ :=
        dropAllConnections_sweeps (react_polite reaction) tended.wellFormed.toListed tended.observed
      have wf := dropAllConnections_wellFormed tended.quiet.wellFormed (Acceptor.react reaction)
      have called : Acceptor.callManager (Acceptor.hear late)
            (fun m => .ok (m.dropAllConnections (Acceptor.react reaction))) m
            { a with forceShutdownInProgress := true } =
          swept late (ConnectionManager.dropAllConnections (Acceptor.react reaction) { m with trace := [] }) a := rfl
      rw [manager] at called
      simp only [called]
      cases heard : swept late (ConnectionManager.dropAllConnections (Acceptor.react reaction) { m with trace := [] }) a with
      | error fault => exact .droppedAllFailed manager ⟨wf, sweeps.observed⟩ sweeps heard
      | ok b =>
          simp only
          cases b.downstreamConnectionManager with
          | none => exact .failed trivial
          | some left =>
              simp only
              split
              · rename_i fault failed
                split at failed
                · cases failed
                · cases failed
                  exact .failed trivial
              · rename_i c reset
                split at reset
                · cases reset
                  split
                  · rename_i pending
                    exact .droppedAll manager ⟨wf, sweeps.observed⟩ sweeps empty heard pending
                  · rename_i pending
                    exact .droppedAllPending manager ⟨wf, sweeps.observed⟩ sweeps empty heard pending
                · cases reset

theorem outcome (op : AcceptorOp Conn) : Outcome a op (a.step op) := by
  cases op with
  | connectionAccepted shouldDoSSL result => exact processEstablishedConnection_outcome steady shouldDoSSL result
  | handshakeCompleted h result =>
      rw [Acceptor.step]
      split
      · rename_i member
        exact .completed member (report_reported h result _)
      · exact .failed trivial
  | handshakeTimeout h late =>
      simp only [Acceptor.step, Acceptor.timeoutExpired, Acceptor.dropHandshake]
      split
      · rename_i scheduled
        split
        · rename_i member
          cases late with
          | false => exact .expired scheduled member (report_reported h _ _)
          | true => exact .expiredLate scheduled member
        · rename_i destroyed
          exact .destroyed scheduled destroyed
      · exact .failed trivial
  | addConnection c reaction => exact addConnection_outcome steady c reaction
  | removeConnection c =>
      have routine : Routine (.removeConnection (.connection c)) := trivial
      exact useManager_outcome steady routine
  | onActivated c => exact useManager_outcome steady trivial
  | onDeactivated c => exact useManager_outcome steady trivial
  | acceptStopped reaction => exact acceptStopped_outcome steady reaction
  | drainConnections pctToDrain reaction => exact drainConnections_outcome steady pctToDrain reaction
  | dropConnections pctToDrop reaction late => exact dropConnections_outcome steady pctToDrop reaction late
  | dropAllConnections reaction late => exact dropAllConnections_outcome steady reaction late
  | runLoopCallback reaction => exact useManager_outcome steady (react_polite reaction)
  | drainTimeoutExpired reaction => exact useManager_outcome steady (react_polite reaction)
  | runPendingAdd c reaction => exact useManager_outcome steady (react_polite reaction)

end Outcome

end Wangle.Proof.Acceptor
