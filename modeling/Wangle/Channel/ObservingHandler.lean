import Wangle.Channel.BroadcastHandler
import Mathlib.Logic.Function.Basic

/-!
# `ObservingHandler`

Any number of observing handlers and of the broadcast handlers that their pool gives them. A step is one event
with all that it calls, up to the callbacks of a broadcast: each of these is a step of its own, and other events can
come before it returns. The close of an observing handler deletes its pipeline, which destroys the handler unless
something else still holds the pipeline.
-/

namespace Wangle.Channel

structure ObservingHandler where
  broadcastHandler : Option Nat := none
  subscriptionId : SubscriptionId := 0
  -- the future of `getHandler` has still to complete
  connecting : Bool := false
  -- writes whose futures have still to complete
  writes : Nat := 0
  -- also `*deleted_`
  destroyed : Bool := false
  deriving DecidableEq, Repr

def ObservingHandler.subscription (handler : ObservingHandler) : Option (Nat × SubscriptionId) :=
  handler.broadcastHandler.map fun broadcastHandler => (broadcastHandler, handler.subscriptionId)

inductive Connect
  | outstanding
  | ready (broadcastHandler : Nat)
  | failed (destroys : Bool)
  deriving DecidableEq, Repr

/-- What the callback of a subscriber meets: whether its write fails at once, and whether its close destroys it. -/
structure Reaction where
  fails : Bool := false
  destroys : Bool := false
  deriving DecidableEq, Repr

inductive ObservingStuck
  -- the observing handler is called after its destruction
  | destroyed
  -- the event cannot come now
  | notCalled
  deriving DecidableEq, Repr

structure Observation (T X : Type) where
  broadcasts : Nat → BroadcastHandler T X Nat := fun _ => {}
  observers : Nat → ObservingHandler := fun _ => {}

namespace Observation
variable {T X : Type}

def setBroadcast (b : Nat) (handler : BroadcastHandler T X Nat) (s : Observation T X) : Observation T X :=
  { s with broadcasts := Function.update s.broadcasts b handler }

def setObserver (o : Nat) (handler : ObservingHandler) (s : Observation T X) : Observation T X :=
  { s with observers := Function.update s.observers o handler }

def destroy (o : Nat) (s : Observation T X) : Observation T X :=
  let handler := s.observers o
  let s := s.setObserver o { handler with broadcastHandler := none, destroyed := true }
  match handler.broadcastHandler with
  | none => s
  | some b => s.setBroadcast b ((s.broadcasts b).unsubscribe handler.subscriptionId)

def close (o : Nat) (destroys : Bool) (s : Observation T X) : Observation T X := if destroys then s.destroy o else s

/-- The continuation of a connect that has succeeded. It resumes ingress, and `transportActive` returns at once. -/
def subscribe (o b : Nat) (s : Observation T X) : Observation T X :=
  let handler := s.observers o
  if handler.destroyed then s
  else
    let broadcast := s.broadcasts b
    let s := s.setObserver o
      { handler with broadcastHandler := some b, subscriptionId := broadcast.nextSubscriptionId }
    s.setBroadcast b (broadcast.subscribe o)

/-- The continuations of a connect or of a write that has failed. -/
def fail (o : Nat) (destroys : Bool) (s : Observation T X) : Observation T X :=
  if (s.observers o).destroyed then s else s.close o destroys

/-- It is not delivered while a connect is outstanding. -/
def transportActive (o : Nat) (connect : Connect) (s : Observation T X) : Except ObservingStuck (Observation T X) :=
  let handler := s.observers o
  if handler.destroyed ∨ handler.connecting then .error .notCalled
  else if handler.broadcastHandler.isSome then .ok s
  else match connect with
    | .outstanding => .ok (s.setObserver o { handler with connecting := true })
    | .ready b => .ok (s.subscribe o b)
    | .failed destroys => .ok (s.fail o destroys)

/-- The future of `getHandler` completes later; `none` is an exception. -/
def connected (o : Nat) (b : Option Nat) (destroys : Bool) (s : Observation T X) :
    Except ObservingStuck (Observation T X) :=
  let handler := s.observers o
  if handler.connecting then
    let s := s.setObserver o { handler with connecting := false }
    match b with
    | some b => .ok (s.subscribe o b)
    | none => .ok (s.fail o destroys)
  else .error .notCalled

def callback (o : Nat) (event : Event T X) (reaction : Reaction) (s : Observation T X) :
    Except ObservingStuck (Observation T X) :=
  let handler := s.observers o
  if handler.destroyed then .error .destroyed
  else if event.isTerminal then
    .ok ((s.setObserver o { handler with broadcastHandler := none }).close o reaction.destroys)
  else if reaction.fails then .ok (s.close o reaction.destroys)
  else .ok (s.setObserver o { handler with writes := handler.writes + 1 })

def forEachSubscriber (b : Nat) (round : Round T X Nat) (reaction : Reaction) (s : Observation T X) :
    Except ObservingStuck (Observation T X) :=
  let s := s.setBroadcast b ((s.broadcasts b).forEachSubscriber round)
  match round.subscribers with
  | [] => .ok s
  | (_, o) :: _ => s.callback o round.event reaction

def broadcast (b : Nat) (event : Event T X) (reaction : Reaction) (s : Observation T X) :
    Except ObservingStuck (Observation T X) :=
  match (s.broadcasts b).round with
  | some _ => .error .notCalled
  | none => s.forEachSubscriber b ⟨event, (s.broadcasts b).subscribers⟩ reaction

def callbackReturns (b : Nat) (reaction : Reaction) (s : Observation T X) :
    Except ObservingStuck (Observation T X) :=
  match (s.broadcasts b).round with
  | none => .error .notCalled
  | some round => s.forEachSubscriber b round reaction

def writeFails (o : Nat) (destroys : Bool) (s : Observation T X) : Except ObservingStuck (Observation T X) :=
  let handler := s.observers o
  if handler.writes = 0 then .error .notCalled
  else .ok ((s.setObserver o { handler with writes := handler.writes - 1 }).fail o destroys)

inductive Op (T X : Type)
  | transportActive (o : Nat) (connect : Connect)
  | connected (o : Nat) (b : Option Nat) (destroys : Bool)
  | broadcast (b : Nat) (event : Event T X) (reaction : Reaction)
  | callbackReturns (b : Nat) (reaction : Reaction)
  | writeFails (o : Nat) (destroys : Bool)
  | destroy (o : Nat)
  deriving DecidableEq, Repr

def step (s : Observation T X) : Op T X → Except ObservingStuck (Observation T X)
  | .transportActive o connect => s.transportActive o connect
  | .connected o b destroys => s.connected o b destroys
  | .broadcast b event reaction => s.broadcast b event reaction
  | .callbackReturns b reaction => s.callbackReturns b reaction
  | .writeFails o destroys => s.writeFails o destroys
  | .destroy o => if (s.observers o).destroyed then .error .notCalled else .ok (s.destroy o)

abbrev run (s : Observation T X) (ops : List (Op T X)) : Except ObservingStuck (Observation T X) :=
  Transition.run step s ops

end Observation
end Wangle.Channel
