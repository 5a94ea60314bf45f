import Wangle.Transition.Run
import Mathlib.Data.List.Sort

/-!
# `Observable` and `Subscription`

One thread. A step is a call up to the first callback of an observer, or destructor of a released one, that it runs:
what these call are steps of their own. The observer of a subscription is known by the id of the subscription, an
observer given as a plain pointer by the number of its `observe`.
-/

namespace Wangle.Rx

inductive Recipient
  | observer (number : Nat)
  | subscriber (id : Nat)
  deriving DecidableEq, Repr

structure Notification (N : Type) where
  value : N
  called : List Recipient := []
  due : List Recipient := []
  deriving DecidableEq, Repr

/-- `inCallback_`, and where `forEachObserver` stands. -/
inductive Phase (N : Type)
  | outside
  | calling (notification : Notification N)
  -- the observer of one of `oldSubscribers_` is being released, these are left
  | releasing (notification : Notification N) (ids : List Nat)
  deriving DecidableEq, Repr

def Phase.inCallback {N : Type} : Phase N → Bool
  | .outside => false
  | .calling _ => true
  | .releasing _ _ => true

def Phase.current {N : Type} : Phase N → List (Notification N)
  | .outside => []
  | .calling notification => [notification]
  | .releasing notification _ => [notification]

inductive Event
  | called (recipient : Recipient)
  | destroyed (id : Nat)
  deriving DecidableEq, Repr

inductive Fault
  | notPossible
  -- a `CHECK`: a notification within another, or an id that is zero
  | check
  -- `oldSubscribers_` grows while it is walked
  | undefined
  deriving DecidableEq, Repr

structure Observable (N : Type) where
  nextSubscriptionId : Nat := 1
  observers : List Nat := []
  newObservers : List Nat := []
  -- the keys of the maps
  subscribers : List Nat := []
  newSubscribers : List Nat := []
  oldSubscribers : List Nat := []
  phase : Phase N := .outside
  -- the subscriptions that exist
  subscriptions : List Nat := []
  observed : Nat := 0
  past : List (Notification N) := []
  -- each with the number of notifications that had started
  registered : List (Recipient × Nat) := []
  destroyed : List (Nat × Nat) := []
  events : List Event := []
  deriving DecidableEq, Repr

namespace Observable
variable {N : Type}

inductive Op (N : Type)
  | subscribe
  -- of an `ObserverPtr`
  | observe
  -- of an `Observer*`
  | observeInline
  | destroySubscription (id : Nat)
  | forEachObserver (value : N)
  -- the callback or the destructor returns
  | returns
  deriving DecidableEq, Repr

def notifications (s : Observable N) : List (Notification N) := s.past ++ s.phase.current

def started (s : Observable N) : Nat := s.notifications.length

def register (recipient : Recipient) (s : Observable N) : Observable N :=
  { s with registered := s.registered ++ [(recipient, s.started)] }

def observeInline (s : Observable N) : Observable N :=
  let number := s.observed
  let s := register (.observer number) { s with observed := number + 1 }
  if s.phase.inCallback then { s with newObservers := s.newObservers ++ [number] }
  else { s with observers := s.observers ++ [number] }

/-- After the last id the counter is zero, which the constructor of `Subscription` refuses. -/
def subscribeImpl (indefinite : Bool) (s : Observable N) : Except Fault (Observable N) :=
  let id := s.nextSubscriptionId
  if id = UInt64.size then .error .check
  else
    let s := register (.subscriber id) { s with
      nextSubscriptionId := id + 1, subscriptions := if indefinite then s.subscriptions else s.subscriptions ++ [id] }
    if s.phase.inCallback then .ok { s with newSubscribers := s.newSubscribers.orderedInsert (· ≤ ·) id }
    else .ok { s with subscribers := s.subscribers.orderedInsert (· ≤ ·) id }

def unsubscribe (id : Nat) (s : Observable N) : Except Fault (Observable N) :=
  match s.phase with
  | .outside => .ok { s with subscribers := s.subscribers.erase id }
  | .calling _ =>
      if id ∈ s.newSubscribers then .ok { s with newSubscribers := s.newSubscribers.erase id }
      else .ok { s with oldSubscribers := s.oldSubscribers ++ [id] }
  | .releasing _ _ =>
      if id ∈ s.newSubscribers then .ok { s with newSubscribers := s.newSubscribers.erase id }
      else .error .undefined

def destroySubscription (id : Nat) (s : Observable N) : Except Fault (Observable N) :=
  if id ∈ s.subscriptions then
    unsubscribe id { s with
      subscriptions := s.subscriptions.erase id,
      destroyed := s.destroyed ++ [(id, s.started)],
      events := s.events ++ [.destroyed id] }
  else .error .notPossible

/-- What `forEachObserver` does with `newObservers_` and `newSubscribers_`. -/
def addNew (s : Observable N) : Observable N :=
  { s with
    observers := s.observers ++ s.newObservers,
    newObservers := [],
    subscribers := s.newSubscribers.foldl (fun subscribers id => subscribers.orderedInsert (· ≤ ·) id) s.subscribers,
    newSubscribers := [] }

/-- The walk over `oldSubscribers_`, up to the next observer that is released, or to the end. -/
def release (notification : Notification N) (ids : List Nat) (s : Observable N) : Observable N :=
  match ids with
  | [] => { s with oldSubscribers := [], phase := .outside, past := s.past ++ [notification] }
  | id :: ids => { s with subscribers := s.subscribers.erase id, phase := .releasing notification ids }

/-- `forEachObserver` up to the next callback or destructor, or to its end. -/
def advance (s : Observable N) : Observable N :=
  match s.phase with
  | .outside => s
  | .calling { value, called, due := recipient :: due } =>
      { s with
        phase := .calling { value, called := called ++ [recipient], due },
        events := s.events ++ [.called recipient] }
  | .calling { value, called, due := [] } => release { value, called } s.oldSubscribers s.addNew
  | .releasing notification ids => release notification ids s

def recipients (s : Observable N) : List Recipient :=
  s.observers.map Recipient.observer ++ s.subscribers.map Recipient.subscriber

def forEachObserver (value : N) (s : Observable N) : Except Fault (Observable N) :=
  if s.phase.inCallback then .error .check
  else .ok (advance { s with phase := .calling { value, due := s.recipients } })

def returns (s : Observable N) : Except Fault (Observable N) :=
  if s.phase.inCallback then .ok s.advance else .error .notPossible

def step (s : Observable N) : Op N → Except Fault (Observable N)
  | .subscribe => s.subscribeImpl false
  | .observe => s.subscribeImpl true
  | .observeInline => .ok s.observeInline
  | .destroySubscription id => s.destroySubscription id
  | .forEachObserver value => s.forEachObserver value
  | .returns => s.returns

abbrev run (s : Observable N) (ops : List (Op N)) : Except Fault (Observable N) := Transition.run step s ops

end Observable

end Wangle.Rx
