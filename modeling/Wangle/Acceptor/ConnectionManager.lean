import Wangle.Intrusive.Iterator
import Wangle.Transition.Run
import Mathlib.Logic.Function.Basic

/-!
# `ConnectionManager`

The manager with its drain helper, the drain states of its connections and the callbacks that the event
base has queued for it. Callbacks into a connection are events of the `trace`; what a connection does in
one of them is to remove connections from the manager, and comes with the operation as a `Reaction`.
-/

namespace Wangle.Acceptor
open Wangle.Intrusive

inductive DrainState
  | none
  | sentNotifyPendingShutdown
  | sentCloseWhenIdle
  deriving DecidableEq, Repr

inductive ShutdownState
  | none
  | notifyPendingShutdown
  | notifyPendingShutdownComplete
  | closeWhenIdle
  | closeWhenIdleComplete
  deriving DecidableEq, Repr

def ShutdownState.toNat : ShutdownState → Nat
  | .none => 0
  | .notifyPendingShutdown => 1
  | .notifyPendingShutdownComplete => 2
  | .closeWhenIdle => 3
  | .closeWhenIdleComplete => 4

instance : LE ShutdownState := ⟨fun a b => a.toNat ≤ b.toNat⟩

instance (a b : ShutdownState) : Decidable (a ≤ b) := inferInstanceAs (Decidable (a.toNat ≤ b.toNat))

inductive Event (Conn : Type)
  | added (c : Conn)
  | removed (c : Conn)
  | activated (c : Conn)
  | deactivated (c : Conn)
  | notifyPendingShutdown (c : Conn)
  | closeWhenIdle (c : Conn)
  | dropConnection (c : Conn)
  | onConnectionAdded
  | onConnectionRemoved
  | onEmpty
  deriving DecidableEq, Repr

inductive Stuck
  -- a `CHECK` aborts the program
  | checkFailed
  -- an iterator is used that is not in the list
  | undefined
  -- the event base has no such callback to run
  | notScheduled
  deriving DecidableEq, Repr

/-- The connections that a connection removes from the manager before its callback returns. -/
abbrev Reaction (Conn : Type) := Conn → List Conn

/-- `pct` gives the number of connections selected out of a number of connections. The base classes
`LoopCallback` and `AsyncTimeout` are the flags whether the event base holds the callback. -/
structure DrainHelper where
  all : Bool := true
  pct : Nat → Nat := id
  shutdownState : ShutdownState := .none
  isScheduled : Bool := false
  isLoopCallbackScheduled : Bool := false

/-- `isManaged` says of a connection that its `connectionManager_` is this one; `pendingAdds` are the
closures that `addConnection` has handed to `runInLoop`. -/
structure ConnectionManager (Conn : Type) where
  conns : List Conn := []
  drainIterator : Option Conn := none
  idleIterator : Option Conn := none
  drainHelper : DrainHelper := {}
  notifyPendingShutdown : Bool := true
  timeout : Int := 0
  idleConnEarlyDropThreshold : Int := 0
  hasCallback : Bool := false
  isManaged : Conn → Bool := fun _ => false
  drainState : Conn → DrainState := fun _ => .none
  pendingAdds : List Conn := []
  trace : List (Event Conn) := []

def DrainHelper.getShutdownState (h : DrainHelper) : ShutdownState :=
  if h.all then h.shutdownState else .none

namespace ConnectionManager
variable {Conn : Type}

def init (timeout : Int) (hasCallback : Bool) : ConnectionManager Conn :=
  { timeout := timeout, idleConnEarlyDropThreshold := timeout.tdiv 2, hasCallback := hasCallback }

def record (e : Event Conn) (s : ConnectionManager Conn) : ConnectionManager Conn :=
  { s with trace := s.trace ++ [e] }

def reportRemoval (s : ConnectionManager Conn) : ConnectionManager Conn :=
  if s.hasCallback then
    let s := s.record .onConnectionRemoved
    if s.conns.length = 0 then s.record .onEmpty else s
  else s

def stopDrainingForShutdown (s : ConnectionManager Conn) : ConnectionManager Conn :=
  { s with drainHelper :=
    { s.drainHelper with shutdownState := .closeWhenIdleComplete, isScheduled := false } }

variable [DecidableEq Conn]

def setDrainState (c : Conn) (state : DrainState) (s : ConnectionManager Conn) : ConnectionManager Conn :=
  { s with drainState := Function.update s.drainState c state }

def setManaged (c : Conn) (managed : Bool) (s : ConnectionManager Conn) : ConnectionManager Conn :=
  { s with isManaged := Function.update s.isManaged c managed }

def removeConnection (c : Conn) (s : ConnectionManager Conn) : ConnectionManager Conn :=
  if s.isManaged c then
    reportRemoval <| record (.removed c) <| setManaged c false
      { s with
        drainIterator := if s.drainIterator = some c then next c s.conns else s.drainIterator
        idleIterator := if s.idleIterator = some c then next c s.conns else s.idleIterator
        conns := s.conns.erase c }
  else s

def removeConnections (cs : List Conn) (s : ConnectionManager Conn) : ConnectionManager Conn :=
  cs.foldl (fun s c => s.removeConnection c) s

def fireNotifyPendingShutdown (reaction : Reaction Conn) (c : Conn) (s : ConnectionManager Conn) :
    ConnectionManager Conn :=
  if s.drainState c = .none then
    removeConnections (reaction c) <| record (.notifyPendingShutdown c) <|
      setDrainState c .sentNotifyPendingShutdown s
  else s

def fireCloseWhenIdle (reaction : Reaction Conn) (forceToClose : Bool) (c : Conn)
    (s : ConnectionManager Conn) : ConnectionManager Conn :=
  if forceToClose ∨ s.drainState c = .sentNotifyPendingShutdown then
    removeConnections (reaction c) <| record (.closeWhenIdle c) <| setDrainState c .sentCloseWhenIdle s
  else s

def insertConnection (c : Conn) (s : ConnectionManager Conn) : ConnectionManager Conn :=
  let s := record (.added c) <| setManaged c true { s with conns := c :: s.conns }
  if s.hasCallback then s.record .onConnectionAdded else s

def addConnection (reaction : Reaction Conn) (c : Conn) (s : ConnectionManager Conn) :
    ConnectionManager Conn :=
  let s := if s.isManaged c then s else s.insertConnection c
  let s :=
    if .notifyPendingShutdown ≤ s.drainHelper.getShutdownState ∧ s.notifyPendingShutdown then
      s.fireNotifyPendingShutdown reaction c
    else s
  -- `closeWhenIdle` is left to a closure at the end of the loop
  if .closeWhenIdle ≤ s.drainHelper.getShutdownState then
    { s with pendingAdds := s.pendingAdds ++ [c] }
  else s

def runPendingAdd (reaction : Reaction Conn) (c : Conn) (s : ConnectionManager Conn) :
    Except Stuck (ConnectionManager Conn) :=
  if c ∈ s.pendingAdds then
    let s := { s with pendingAdds := s.pendingAdds.erase c }
    if c ∈ s.conns then .ok (s.fireCloseWhenIdle reaction (!s.notifyPendingShutdown) c) else .ok s
  else .error .notScheduled

end ConnectionManager

/-! ## The drain helper -/

namespace DrainHelper
variable {Conn : Type}

def drainStartIterator (s : ConnectionManager Conn) : Option Conn :=
  if s.drainHelper.all then s.conns.head?
  else (s.conns.drop (s.conns.length - min s.conns.length (s.drainHelper.pct s.conns.length))).head?

variable [DecidableEq Conn]

def drainOne (reaction : Reaction Conn) (c : Conn) (s : ConnectionManager Conn) : ConnectionManager Conn :=
  if s.drainHelper.shutdownState = .notifyPendingShutdown then s.fireNotifyPendingShutdown reaction c
  else s.fireCloseWhenIdle reaction (!s.notifyPendingShutdown) c

/-- The loop. Its iterator has been moved on when the callback runs, and must not be removed by it. -/
def drainLoop (reaction : Reaction Conn) :
    Nat → Option Conn → ConnectionManager Conn → Except Stuck (Option Conn × ConnectionManager Conn)
  | 0, it, s => .ok (it, s)
  | _+1, none, s => .ok (none, s)
  | n+1, some c, s =>
      let it := next c s.conns
      let s := drainOne reaction c s
      if it.all (· ∈ s.conns) then drainLoop reaction n it s else .error .undefined

def finishDrain (it : Option Conn) (s : ConnectionManager Conn) : ConnectionManager Conn :=
  let s := { s with drainIterator := it }
  if it ≠ none then { s with drainHelper := { s.drainHelper with isLoopCallbackScheduled := true } }
  else if s.drainHelper.shutdownState = .notifyPendingShutdown then
    let s := { s with drainHelper :=
      { s.drainHelper with shutdownState := .notifyPendingShutdownComplete } }
    if s.drainHelper.isScheduled then s
    else
      { s with
        drainIterator := drainStartIterator s
        drainHelper :=
          { s.drainHelper with shutdownState := .closeWhenIdle, isLoopCallbackScheduled := true } }
  else { s with drainHelper := { s.drainHelper with shutdownState := .closeWhenIdleComplete } }

def drainConnections (reaction : Reaction Conn) (s : ConnectionManager Conn) :
    Except Stuck (ConnectionManager Conn) :=
  if s.drainHelper.shutdownState = .notifyPendingShutdown ∨ s.drainHelper.shutdownState = .closeWhenIdle then
    match drainLoop reaction 64 s.drainIterator s with
    | .error e => .error e
    | .ok (it, s) => .ok (finishDrain it s)
  else .error .checkFailed

def beginDrain (idleGrace : Int) (s : ConnectionManager Conn) : ConnectionManager Conn :=
  let s :=
    if idleGrace > 0 then
      { s with drainHelper :=
        { s.drainHelper with shutdownState := .notifyPendingShutdown, isScheduled := true } }
    else
      { s with
        notifyPendingShutdown := false
        drainHelper := { s.drainHelper with shutdownState := .closeWhenIdle } }
  { s with drainIterator := drainStartIterator s }

def startDrain (reaction : Reaction Conn) (idleGrace : Int) (s : ConnectionManager Conn) :
    Except Stuck (ConnectionManager Conn) :=
  drainConnections reaction (beginDrain idleGrace s)

def startDrainPartial (reaction : Reaction Conn) (pct : Nat → Nat) (idleGrace : Int)
    (s : ConnectionManager Conn) : Except Stuck (ConnectionManager Conn) :=
  startDrain reaction idleGrace { s with drainHelper := { s.drainHelper with all := false, pct := pct } }

def startDrainAll (reaction : Reaction Conn) (idleGrace : Int) (s : ConnectionManager Conn) :
    Except Stuck (ConnectionManager Conn) :=
  -- the timeout of a partial drain is cancelled
  startDrain reaction idleGrace
    { s with drainHelper := { s.drainHelper with all := true, pct := id, isScheduled := false } }

def runLoopCallback (reaction : Reaction Conn) (s : ConnectionManager Conn) :
    Except Stuck (ConnectionManager Conn) :=
  if s.drainHelper.isLoopCallbackScheduled then
    drainConnections reaction { s with drainHelper := { s.drainHelper with isLoopCallbackScheduled := false } }
  else .error .notScheduled

def idleGracefulTimeoutExpired (reaction : Reaction Conn) (s : ConnectionManager Conn) :
    Except Stuck (ConnectionManager Conn) :=
  if s.drainHelper.shutdownState = .notifyPendingShutdownComplete then
    let s := { s with drainHelper := { s.drainHelper with shutdownState := .closeWhenIdle } }
    drainConnections reaction { s with drainIterator := drainStartIterator s }
  else .ok s

def timeoutExpired (reaction : Reaction Conn) (s : ConnectionManager Conn) :
    Except Stuck (ConnectionManager Conn) :=
  if s.drainHelper.isScheduled then
    idleGracefulTimeoutExpired reaction
      { s with drainHelper := { s.drainHelper with isScheduled := false } }
  else .error .notScheduled

end DrainHelper

namespace ConnectionManager
variable {Conn : Type} [DecidableEq Conn]

def initiateGracefulShutdown (reaction : Reaction Conn) (idleGrace : Int) (s : ConnectionManager Conn) :
    Except Stuck (ConnectionManager Conn) :=
  if s.drainHelper.getShutdownState ≠ .none then .ok s else DrainHelper.startDrainAll reaction idleGrace s

def drainConnections (reaction : Reaction Conn) (pct : Nat → Nat) (idleGrace : Int)
    (s : ConnectionManager Conn) : Except Stuck (ConnectionManager Conn) :=
  if s.drainHelper.getShutdownState ≠ .none then .ok s else DrainHelper.startDrainPartial reaction pct idleGrace s

/-! ## Dropping -/

def dropConnection (reaction : Reaction Conn) (c : Conn) (s : ConnectionManager Conn) :
    ConnectionManager Conn :=
  removeConnections (reaction c) (s.record (.dropConnection c))

def dropAllLoop (reaction : Reaction Conn) : Nat → ConnectionManager Conn → ConnectionManager Conn
  | 0, s => s
  | n+1, s => match s.conns with
      | [] => s
      | c :: conns =>
          dropAllLoop reaction n <| dropConnection reaction c <| record (.removed c) <| setManaged c false
            { s with conns := conns }

def dropAllConnections (reaction : Reaction Conn) (s : ConnectionManager Conn) : ConnectionManager Conn :=
  let s := s.stopDrainingForShutdown
  let s := dropAllLoop reaction s.conns.length s
  let s := { s with
    drainIterator := none
    idleIterator := none
    drainHelper := { s.drainHelper with isLoopCallbackScheduled := false } }
  if s.hasCallback then s.record .onEmpty else s

def dropLoop (reaction : Reaction Conn) : Nat → ConnectionManager Conn → ConnectionManager Conn
  | 0, s => s
  | n+1, s => match s.conns with
      | [] => s
      | c :: _ => dropLoop reaction n <| dropConnection reaction c <| removeConnection c s

def dropConnections (reaction : Reaction Conn) (pct : Nat → Nat) (s : ConnectionManager Conn) :
    ConnectionManager Conn :=
  let s := s.stopDrainingForShutdown
  dropLoop reaction (min s.conns.length (pct s.conns.length)) s

def setLoweredIdleTimeout (timeout : Int) (s : ConnectionManager Conn) : Except Stuck (ConnectionManager Conn) :=
  if 0 ≤ timeout ∧ timeout ≤ s.timeout then .ok { s with idleConnEarlyDropThreshold := timeout }
  else .error .checkFailed

def dropIdleLoop (reaction : Reaction Conn) (idleTime : Conn → Int) :
    Nat → ConnectionManager Conn → Nat × ConnectionManager Conn
  | 0, s => (0, s)
  | n+1, s => match s.idleIterator with
      | none => (0, s)
      | some c =>
          if idleTime c = 0 ∨ idleTime c ≤ s.idleConnEarlyDropThreshold then (0, s)
          else
            let (count, s) := dropIdleLoop reaction idleTime n <|
              dropConnection reaction c { s with idleIterator := next c s.conns }
            (count + 1, s)

def dropIdleConnections (reaction : Reaction Conn) (idleTime : Conn → Int) (num : Nat)
    (s : ConnectionManager Conn) : Nat × ConnectionManager Conn :=
  if s.idleConnEarlyDropThreshold ≥ s.timeout then (0, s) else dropIdleLoop reaction idleTime num s

/-! ## Busy and idle connections -/

def onActivated (c : Conn) (s : ConnectionManager Conn) : Except Stuck (ConnectionManager Conn) :=
  if c ∈ s.conns then
    -- the drain iterator stays where it is
    .ok <| record (.activated c)
      { s with
        idleIterator := if s.idleIterator = some c then next c s.conns else s.idleIterator
        conns := c :: s.conns.erase c }
  else .error .undefined

def onDeactivated (c : Conn) (s : ConnectionManager Conn) : Except Stuck (ConnectionManager Conn) :=
  if c ∈ s.conns then
    let moveDrainIter := s.drainIterator = some c
    let drainIterator := if moveDrainIter then next c s.conns else s.drainIterator
    let conns := s.conns.erase c ++ [c]
    .ok <| record (.deactivated c)
      { s with
        conns := conns
        idleIterator := if s.idleIterator = none then conns.getLast? else s.idleIterator
        drainIterator := if moveDrainIter ∧ drainIterator = none then conns.getLast? else drainIterator }
  else .error .undefined

end ConnectionManager

/-! ## Runs -/

inductive Op (Conn : Type)
  | addConnection (c : Conn) (reaction : Reaction Conn)
  | removeConnection (c : Conn)
  | onActivated (c : Conn)
  | onDeactivated (c : Conn)
  | initiateGracefulShutdown (idleGrace : Int) (reaction : Reaction Conn)
  | drainConnections (pct : Nat → Nat) (idleGrace : Int) (reaction : Reaction Conn)
  | dropConnections (pct : Nat → Nat) (reaction : Reaction Conn)
  | dropAllConnections (reaction : Reaction Conn)
  | dropIdleConnections (num : Nat) (idleTime : Conn → Int) (reaction : Reaction Conn)
  | runLoopCallback (reaction : Reaction Conn)
  | timeoutExpired (reaction : Reaction Conn)
  | runPendingAdd (c : Conn) (reaction : Reaction Conn)

namespace ConnectionManager
variable {Conn : Type} [DecidableEq Conn]

def step (s : ConnectionManager Conn) : Op Conn → Except Stuck (ConnectionManager Conn)
  | .addConnection c reaction => .ok (s.addConnection reaction c)
  | .removeConnection c => .ok (s.removeConnection c)
  | .onActivated c => s.onActivated c
  | .onDeactivated c => s.onDeactivated c
  | .initiateGracefulShutdown idleGrace reaction => s.initiateGracefulShutdown reaction idleGrace
  | .drainConnections pct idleGrace reaction => s.drainConnections reaction pct idleGrace
  | .dropConnections pct reaction => .ok (s.dropConnections reaction pct)
  | .dropAllConnections reaction => .ok (s.dropAllConnections reaction)
  | .dropIdleConnections num idleTime reaction => .ok (s.dropIdleConnections reaction idleTime num).2
  | .runLoopCallback reaction => DrainHelper.runLoopCallback reaction s
  | .timeoutExpired reaction => DrainHelper.timeoutExpired reaction s
  | .runPendingAdd c reaction => s.runPendingAdd reaction c

abbrev run (s : ConnectionManager Conn) (ops : List (Op Conn)) : Except Stuck (ConnectionManager Conn) :=
  Transition.run step s ops

end ConnectionManager
end Wangle.Acceptor
