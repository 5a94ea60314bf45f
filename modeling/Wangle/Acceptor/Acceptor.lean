import Wangle.Acceptor.ConnectionManager
import Wangle.Acceptor.HandshakeHelper

/-!
# `Acceptor` and its handshake managers

Handshake managers are numbered in the order in which they are started. The connection manager runs an
operation, and the acceptor and the handshake managers then hear of its events in their order: it does not
ask them anything in between.
-/

set_option linter.dupNamespace false

namespace Wangle.Acceptor

inductive AcceptorState
  | init
  | running
  | draining
  | done
  deriving DecidableEq, Repr

def AcceptorState.toNat : AcceptorState → Nat
  | .init => 0
  | .running => 1
  | .draining => 2
  | .done => 3

instance : LE AcceptorState := ⟨fun a b => a.toNat ≤ b.toNat⟩

instance (a b : AcceptorState) : Decidable (a ≤ b) := inferInstanceAs (Decidable (a.toNat ≤ b.toNat))

inductive Managed (Conn : Type)
  | connection (c : Conn)
  | handshake (h : Nat)
  deriving DecidableEq, Repr

structure AcceptorConfig where
  maxConcurrentSSLHandshakes : Nat := 30720
  connectionIdleTimeout : Int := 600000
  sslHandshakeTimeout : Int := 60000
  deriving DecidableEq, Repr

inductive AcceptorEvent
  | started (h : Nat)
  -- the handshake manager uses the connection manager of the acceptor
  | usesManager (h : Nat)
  | scheduledTimeout (h : Nat)
  -- what ends a handshake: its helper, the timeout, or the connection manager
  | completed (h : Nat)
  | timeoutExpired (h : Nat)
  | dropped (h : Nat)
  | left (h : Nat)
  | reported (h : Nat)
  | onNewConnection (nextProtocolName : String) (secureTransportType : SecureTransportType)
  -- with the numbers of managed connections and of pending handshakes at that moment
  | entered (state : AcceptorState) (connections pending : Nat)
  | onConnectionsDrained
  deriving DecidableEq, Repr

/-- `handshakes` are the handshake managers that have not destroyed themselves, and `timeouts` those that
the timer of the connection manager will call. -/
structure Acceptor (Conn : Type) where
  accConfig : AcceptorConfig
  gracefulShutdownTimeout : Int := 5000
  state : AcceptorState := .init
  numPendingSSLConns : Nat := 0
  forceShutdownInProgress : Bool := false
  downstreamConnectionManager : Option (ConnectionManager (Managed Conn)) := none
  nextHandshake : Nat := 0
  handshakes : List Nat := []
  timeouts : List Nat := []
  trace : List AcceptorEvent := []

namespace Acceptor

inductive Fault
  -- the `CHECK`s on `numPendingSSLConns_`
  | pendingCheck
  -- the `CHECK` in `checkDrained`
  | drainedCheck
  -- the `CHECK` on the number of connections in `dropAllConnections`
  | emptyCheck
  -- a handshake manager that is started or reports meets a null connection manager
  | nullManager
  -- a destroyed handshake manager is called
  | destroyed
  -- any other use of a null pointer or of freed memory
  | undefined
  | manager (stuck : Stuck)
  | notEnabled
  deriving DecidableEq, Repr

variable {Conn : Type}

def initDownstreamConnectionManager (a : Acceptor Conn) : Acceptor Conn :=
  { a with
    state := .running
    downstreamConnectionManager := some (.init a.accConfig.connectionIdleTimeout true) }

def record (e : AcceptorEvent) (a : Acceptor Conn) : Acceptor Conn := { a with trace := a.trace ++ [e] }

def getNumConnections (a : Acceptor Conn) : Nat :=
  match a.downstreamConnectionManager with
  | none => 0
  | some m => m.conns.length

def enter (state : AcceptorState) (a : Acceptor Conn) : Acceptor Conn :=
  { a.record (.entered state a.getNumConnections a.numPendingSSLConns) with state := state }

/-- The timer goes with the connection manager. -/
def resetManager (a : Acceptor Conn) : Acceptor Conn :=
  { a with downstreamConnectionManager := none, timeouts := [] }

def checkDrained (a : Acceptor Conn) : Except Fault (Acceptor Conn) :=
  if a.state ≠ .draining then .error .drainedCheck
  else if a.forceShutdownInProgress then .ok a
  else match a.downstreamConnectionManager with
    | none => .error .undefined
    | some m =>
        if m.conns.length ≠ 0 ∨ a.numPendingSSLConns ≠ 0 then .ok a
        else .ok ((a.enter .done).resetManager.record .onConnectionsDrained)

def onEmpty (a : Acceptor Conn) : Except Fault (Acceptor Conn) :=
  if a.state = .draining then a.checkDrained else .ok a

def connectionReady (nextProtocolName : String) (secureTransportType : SecureTransportType) (a : Acceptor Conn) :
    Acceptor Conn :=
  if .draining ≤ a.state then a else a.record (.onNewConnection nextProtocolName secureTransportType)

def sslConnectionReady (nextProtocol : String) (secureTransportType : SecureTransportType) (a : Acceptor Conn) :
    Except Fault (Acceptor Conn) :=
  if a.numPendingSSLConns > 0 then
    let a := { a with numPendingSSLConns := a.numPendingSSLConns - 1 }
    let a := a.connectionReady nextProtocol secureTransportType
    if a.state = .draining then a.checkDrained else .ok a
  else .error .pendingCheck

def sslConnectionError (a : Acceptor Conn) : Except Fault (Acceptor Conn) :=
  if a.numPendingSSLConns > 0 then
    let a := { a with numPendingSSLConns := a.numPendingSSLConns - 1 }
    if a.state = .draining then a.checkDrained else .ok a
  else .error .pendingCheck

def sslConnectionResult (result : Report) (a : Acceptor Conn) : Except Fault (Acceptor Conn) :=
  match result with
  | .connectionReady nextProtocol secureTransportType _ => a.sslConnectionReady nextProtocol secureTransportType
  | .connectionError _ _ => a.sslConnectionError

/-- A handshake manager that leaves the list has its timeout cancelled. -/
def observe (a : Acceptor Conn) : Event (Managed Conn) → Except Fault (Acceptor Conn)
  | .removed (.handshake h) => .ok ({ a with timeouts := a.timeouts.erase h }.record (.left h))
  | .onEmpty => a.onEmpty
  | _ => .ok a

/-! ## `AcceptorHandshakeManager` -/

def scheduleTimeout (h : Nat) (timeout : Int) (a : Acceptor Conn) : Acceptor Conn :=
  if timeout > 0 then { a with timeouts := a.timeouts.insert h }.record (.scheduledTimeout h) else a

def startHandshakeTimeout (h : Nat) (a : Acceptor Conn) : Except Fault (Acceptor Conn) :=
  let a := a.record (.usesManager h)
  match a.downstreamConnectionManager with
  | none => .error .undefined
  | some _ => .ok (a.scheduleTimeout h a.accConfig.sslHandshakeTimeout)

variable [DecidableEq Conn]

/-- The operation of the connection manager, and then what it tells the others. An operation adds nothing to
the list once it has removed something, so `checkDrained` may look at the list at the end. -/
def callManager (hear : Acceptor Conn → Event (Managed Conn) → Except Fault (Acceptor Conn))
    (call : ConnectionManager (Managed Conn) → Except Stuck (ConnectionManager (Managed Conn)))
    (m : ConnectionManager (Managed Conn)) (a : Acceptor Conn) : Except Fault (Acceptor Conn) :=
  match call { m with trace := [] } with
  | .error stuck => .error (.manager stuck)
  | .ok m => Transition.run hear { a with downstreamConnectionManager := some m } m.trace

/-- `connectionReady` and `connectionError`, which end with `destroy()`. -/
def report (h : Nat) (result : Report) (a : Acceptor Conn) : Except Fault (Acceptor Conn) :=
  let a := a.record (.usesManager h)
  match a.downstreamConnectionManager with
  | none => .error .nullManager
  | some m => match a.callManager observe (fun m => .ok (m.removeConnection (.handshake h))) m with
      | .error fault => .error fault
      | .ok a => { a with handshakes := a.handshakes.erase h }.record (.reported h) |>.sslConnectionResult result

/-- The helper is told to drop the connection and reports before it returns, unless it is `late`. -/
def dropHandshake (reason : SSLErrorEnum) (late : Bool) (h : Nat) (a : Acceptor Conn) :
    Except Fault (Acceptor Conn) :=
  if h ∈ a.handshakes then
    if late then .ok a else a.report h (.connectionError (.ssl reason) (some reason))
  else .error .destroyed

def hear (late : Nat → Bool) (a : Acceptor Conn) : Event (Managed Conn) → Except Fault (Acceptor Conn)
  | .dropConnection (.handshake h) => (a.record (.dropped h)).dropHandshake .noError (late h) h
  | event => a.observe event

/-- `start`; the helper may report before `startHelper` returns. -/
def startHandshakeManager (result : Option Report) (a : Acceptor Conn) : Except Fault (Acceptor Conn) :=
  let h := a.nextHandshake
  let a := { a with nextHandshake := h + 1, handshakes := a.handshakes ++ [h] }
  let a := (a.record (.started h)).record (.usesManager h)
  match a.downstreamConnectionManager with
  | none => .error .nullManager
  | some m =>
      match a.callManager observe (fun m => .ok (m.addConnection (fun _ => []) (.handshake h))) m with
      | .error fault => .error fault
      | .ok a =>
          let a := a.scheduleTimeout h a.accConfig.connectionIdleTimeout
          match result with
          | none => a.startHandshakeTimeout h
          | some result => match (a.record (.completed h)).report h result with
              | .error fault => .error fault
              | .ok a => a.startHandshakeTimeout h

def timeoutExpired (late : Bool) (h : Nat) (a : Acceptor Conn) : Except Fault (Acceptor Conn) :=
  if h ∈ a.timeouts then
    { a with timeouts := a.timeouts.erase h }.record (.timeoutExpired h) |>.dropHandshake .timeout late h
  else .error .notEnabled

/-! ## The acceptor -/

def processEstablishedConnection (shouldDoSSL : Bool) (result : Option Report) (a : Acceptor Conn) :
    Except Fault (Acceptor Conn) :=
  if shouldDoSSL then
    let a := { a with numPendingSSLConns := a.numPendingSSLConns + 1 }
    if a.numPendingSSLConns > a.accConfig.maxConcurrentSSLHandshakes then a.sslConnectionError
    else a.startHandshakeManager result
  else .ok (a.connectionReady "" .none)

/-- Only connections of the application remove connections in their callbacks, and only such. -/
def react (reaction : Reaction Conn) : Reaction (Managed Conn)
  | .connection c => (reaction c).map .connection
  | .handshake _ => []

def drainAllConnections (reaction : Reaction Conn) (a : Acceptor Conn) : Except Fault (Acceptor Conn) :=
  match a.downstreamConnectionManager with
  | none => .ok a
  | some m =>
      a.callManager observe
        (fun m => m.initiateGracefulShutdown (react reaction) a.gracefulShutdownTimeout) m

def acceptStopped (reaction : Reaction Conn) (a : Acceptor Conn) : Except Fault (Acceptor Conn) :=
  match a.drainAllConnections reaction with
  | .error fault => .error fault
  | .ok a => if a.state ≠ .done then (a.enter .draining).checkDrained else .ok a

def drainConnections (pctToDrain : Nat → Nat) (reaction : Reaction Conn) (a : Acceptor Conn) :
    Except Fault (Acceptor Conn) :=
  match a.downstreamConnectionManager with
  | none => .ok a
  | some m =>
      a.callManager observe
        (fun m => m.drainConnections (react reaction) pctToDrain a.gracefulShutdownTimeout) m

def dropConnections (pctToDrop : Nat → Nat) (reaction : Reaction Conn) (late : Nat → Bool) (a : Acceptor Conn) :
    Except Fault (Acceptor Conn) :=
  match a.downstreamConnectionManager with
  | none => .ok a
  | some m =>
      { a with forceShutdownInProgress := true }.callManager (hear late)
        (fun m => .ok (m.dropConnections (react reaction) pctToDrop)) m

def dropManager (reaction : Reaction Conn) (late : Nat → Bool) (a : Acceptor Conn) : Except Fault (Acceptor Conn) :=
  match a.downstreamConnectionManager with
  | none => .ok a
  | some m =>
      match { a with forceShutdownInProgress := true }.callManager (hear late)
          (fun m => .ok (m.dropAllConnections (react reaction))) m with
      | .error fault => .error fault
      | .ok a => match a.downstreamConnectionManager with
          | none => .error .undefined
          | some m => if m.conns.length = 0 then .ok a.resetManager else .error .emptyCheck

def dropAllConnections (reaction : Reaction Conn) (late : Nat → Bool) (a : Acceptor Conn) :
    Except Fault (Acceptor Conn) :=
  match a.dropManager reaction late with
  | .error fault => .error fault
  | .ok a =>
      if a.numPendingSSLConns = 0 then .ok ((a.enter .done).record .onConnectionsDrained)
      else .error .pendingCheck

def addConnection (c : Conn) (reaction : Reaction Conn) (a : Acceptor Conn) : Except Fault (Acceptor Conn) :=
  match a.downstreamConnectionManager with
  | none => .error .undefined
  | some m =>
      match a.callManager observe (fun m => .ok (m.addConnection (react reaction) (.connection c))) m with
      | .error fault => .error fault
      -- unlike the other operations, this one uses the connection manager after the callback without a guard
      | .ok a => if a.downstreamConnectionManager.isSome then .ok a else .error .undefined

/-! ## Runs -/

end Acceptor

inductive AcceptorOp (Conn : Type)
  | connectionAccepted (shouldDoSSL : Bool) (result : Option Report)
  | handshakeCompleted (h : Nat) (result : Report)
  | handshakeTimeout (h : Nat) (late : Bool)
  | addConnection (c : Conn) (reaction : Reaction Conn)
  | removeConnection (c : Conn)
  | onActivated (c : Conn)
  | onDeactivated (c : Conn)
  | acceptStopped (reaction : Reaction Conn)
  | drainConnections (pctToDrain : Nat → Nat) (reaction : Reaction Conn)
  | dropConnections (pctToDrop : Nat → Nat) (reaction : Reaction Conn) (late : Nat → Bool)
  | dropAllConnections (reaction : Reaction Conn) (late : Nat → Bool)
  | runLoopCallback (reaction : Reaction Conn)
  | drainTimeoutExpired (reaction : Reaction Conn)
  | runPendingAdd (c : Managed Conn) (reaction : Reaction Conn)

namespace Acceptor
variable {Conn : Type} [DecidableEq Conn]

def useManager (op : Op (Managed Conn)) (a : Acceptor Conn) : Except Fault (Acceptor Conn) :=
  match a.downstreamConnectionManager with
  | none => .error .notEnabled
  | some m => a.callManager observe (·.step op) m

def step (a : Acceptor Conn) : AcceptorOp Conn → Except Fault (Acceptor Conn)
  | .connectionAccepted shouldDoSSL result => a.processEstablishedConnection shouldDoSSL result
  | .handshakeCompleted h result =>
      if h ∈ a.handshakes then (a.record (.completed h)).report h result else .error .notEnabled
  | .handshakeTimeout h late => a.timeoutExpired late h
  | .addConnection c reaction => a.addConnection c reaction
  | .removeConnection c => a.useManager (.removeConnection (.connection c))
  | .onActivated c => a.useManager (.onActivated (.connection c))
  | .onDeactivated c => a.useManager (.onDeactivated (.connection c))
  | .acceptStopped reaction => a.acceptStopped reaction
  | .drainConnections pctToDrain reaction => a.drainConnections pctToDrain reaction
  | .dropConnections pctToDrop reaction late => a.dropConnections pctToDrop reaction late
  | .dropAllConnections reaction late => a.dropAllConnections reaction late
  | .runLoopCallback reaction => a.useManager (.runLoopCallback (react reaction))
  | .drainTimeoutExpired reaction => a.useManager (.timeoutExpired (react reaction))
  | .runPendingAdd c reaction => a.useManager (.runPendingAdd c (react reaction))

def initialised (config : AcceptorConfig) (gracefulShutdownTimeout : Int) : Acceptor Conn :=
  initDownstreamConnectionManager
    { accConfig := config, gracefulShutdownTimeout := gracefulShutdownTimeout }

abbrev run (a : Acceptor Conn) (ops : List (AcceptorOp Conn)) : Except Fault (Acceptor Conn) :=
  Transition.run step a ops

end Acceptor
end Wangle.Acceptor
