import Wangle.Transition.Run

/-!
# `BroadcastHandler`

A handler with the callback that is under way, in which subscribers can subscribe and unsubscribe.
-/

namespace Wangle.Channel

abbrev SubscriptionId := Nat

inductive Event (T X : Type)
  | onNext (data : T)
  | onCompleted
  | onError (ex : X)
  deriving DecidableEq, Repr

def Event.isTerminal {T X : Type} : Event T X → Bool
  | .onNext _ => false
  | .onCompleted => true
  | .onError _ => true

inductive Signal (T X : Type)
  | subscribed (subscriptionId : SubscriptionId)
  -- `unsubscribe` of a subscription has returned
  | unsubscribed (subscriptionId : SubscriptionId)
  | callback (subscriptionId : SubscriptionId) (event : Event T X)
  | close
  deriving DecidableEq, Repr

/-- `forEachSubscriber`, with the subscribers of its copy that come after the one that is called now. -/
structure Round (T X S : Type) where
  event : Event T X
  subscribers : List (SubscriptionId × S)
  deriving DecidableEq, Repr

/-- The subscribers are in the order of their ids. -/
structure BroadcastHandler (T X S : Type) where
  subscribers : List (SubscriptionId × S) := []
  nextSubscriptionId : Nat := 0
  round : Option (Round T X S) := none
  signals : List (Signal T X) := []
  deriving DecidableEq, Repr

namespace BroadcastHandler
variable {T X S : Type}

inductive Fault
  -- not a call that the environment can make now
  | impossible
  deriving DecidableEq, Repr

inductive Op (T X S : Type)
  | subscribe (subscriber : S)
  | unsubscribe (subscriptionId : SubscriptionId)
  | read (data : T)
  | readEOF
  | readException (ex : X)
  | callbackReturns
  deriving DecidableEq, Repr

def closeIfIdle (h : BroadcastHandler T X S) : BroadcastHandler T X S :=
  if h.subscribers.isEmpty then { h with signals := h.signals ++ [.close] } else h

def setSubscriber (subscriptionId : SubscriptionId) (subscriber : S) (subscribers : List (SubscriptionId × S)) :
    List (SubscriptionId × S) :=
  subscribers.filter (·.1 < subscriptionId) ++ (subscriptionId, subscriber) :: subscribers.filter (subscriptionId < ·.1)

def subscribe (subscriber : S) (h : BroadcastHandler T X S) : BroadcastHandler T X S :=
  { h with
    subscribers := setSubscriber h.nextSubscriptionId subscriber h.subscribers
    nextSubscriptionId := (h.nextSubscriptionId + 1) % UInt64.size
    signals := h.signals ++ [.subscribed h.nextSubscriptionId] }

def eraseSubscriber (subscriptionId : SubscriptionId) (h : BroadcastHandler T X S) : BroadcastHandler T X S :=
  { h with subscribers := h.subscribers.filter (·.1 ≠ subscriptionId) }

def unsubscribe (subscriptionId : SubscriptionId) (h : BroadcastHandler T X S) : BroadcastHandler T X S :=
  if subscriptionId ∈ h.subscribers.map Prod.fst then
    let closed := (h.eraseSubscriber subscriptionId).closeIfIdle
    { closed with signals := closed.signals ++ [.unsubscribed subscriptionId] }
  else h

def finish (event : Event T X) (h : BroadcastHandler T X S) : BroadcastHandler T X S :=
  if event.isTerminal then closeIfIdle { h with subscribers := [], round := none } else { h with round := none }

def forEachSubscriber (round : Round T X S) (h : BroadcastHandler T X S) : BroadcastHandler T X S :=
  match round.subscribers with
  | [] => h.finish round.event
  | (subscriptionId, _) :: subscribers => { h with
      round := some ⟨round.event, subscribers⟩
      signals := h.signals ++ [.callback subscriptionId round.event] }

def broadcast (event : Event T X) (h : BroadcastHandler T X S) : Except Fault (BroadcastHandler T X S) :=
  match h.round with
  | none => .ok (h.forEachSubscriber ⟨event, h.subscribers⟩)
  | some _ => .error .impossible

def read (data : T) (h : BroadcastHandler T X S) : Except Fault (BroadcastHandler T X S) := h.broadcast (.onNext data)

def readEOF (h : BroadcastHandler T X S) : Except Fault (BroadcastHandler T X S) := h.broadcast .onCompleted

def readException (ex : X) (h : BroadcastHandler T X S) : Except Fault (BroadcastHandler T X S) :=
  h.broadcast (.onError ex)

def callbackReturns (h : BroadcastHandler T X S) : Except Fault (BroadcastHandler T X S) :=
  match h.round with
  | none => .error .impossible
  | some round => .ok (h.forEachSubscriber round)

def step (h : BroadcastHandler T X S) : Op T X S → Except Fault (BroadcastHandler T X S)
  | .subscribe subscriber => .ok (h.subscribe subscriber)
  | .unsubscribe subscriptionId => .ok (h.unsubscribe subscriptionId)
  | .read data => h.read data
  | .readEOF => h.readEOF
  | .readException ex => h.readException ex
  | .callbackReturns => h.callbackReturns

abbrev run (h : BroadcastHandler T X S) (ops : List (Op T X S)) : Except Fault (BroadcastHandler T X S) :=
  Transition.run step h ops

end BroadcastHandler
end Wangle.Channel
