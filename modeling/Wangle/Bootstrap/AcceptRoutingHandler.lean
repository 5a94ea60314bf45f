import Wangle.Bootstrap.ServerWorkerPool
import Mathlib.Logic.Function.Basic

/-!
# `AcceptRoutingHandler`

The handler with the routing pipelines of its connections, the closures that it has posted to the event bases
of the workers and the child pipelines that these have made. The socket of a connection delivers its bytes to
the pipeline whose `AsyncSocketHandler` has set the read callback: the routing pipeline, then none until the
closure has run, then the child pipeline.
-/

namespace Wangle.Bootstrap

/-- What `parseRoutingData` leaves: the routing handler, the queue of the `AsyncSocketHandler`, and on success
the routing data with its `bufQueue`. -/
structure Parsed (R σ : Type) where
  handler : σ
  queue : List UInt8
  routingData : Option (R × List UInt8) := none

structure Routing (R σ : Type) where
  newHandler : σ
  parseRoutingData : σ → List UInt8 → Parsed R σ
  hash : R → Nat

structure RoutingPipeline (σ : Type) where
  handler : σ
  bufQueue : List UInt8 := []

/-- The closure that `onRoutingData` hands to `runInEventBaseThread` of the worker. -/
structure Posted (R : Type) where
  connId : Nat
  worker : Worker
  routingData : R
  bufQueue : List UInt8
  deriving DecidableEq

structure Child (R : Type) where
  connId : Nat
  worker : Worker
  routingData : R
  received : List UInt8
  deriving DecidableEq

inductive RoutingEvent
  | accepted (connId : Nat)
  -- the addresses of the socket cannot be had, and the connection is dropped
  | invalid (connId : Nat)
  | onRoutingData (connId : Nat)
  -- also `readException` of the accept pipeline
  | onError (connId : Nat)
  deriving DecidableEq, Repr

structure AcceptRoutingHandler (R σ : Type) where
  acceptors : List Worker := []
  routingPipelines : Nat → Option (RoutingPipeline σ) := fun _ => none
  -- a `uint64_t` that no run is long enough to wrap
  nextConnId : Nat := 0
  posted : List (Posted R) := []
  children : List (Child R) := []
  trace : List RoutingEvent := []

inductive RoutingStuck
  -- the remainder by zero
  | undefined
  -- the read callback is not set, or there is no such call
  | notCalled
  deriving DecidableEq, Repr

namespace AcceptRoutingHandler
variable {R σ : Type}

def record (e : RoutingEvent) (s : AcceptRoutingHandler R σ) : AcceptRoutingHandler R σ :=
  { s with trace := s.trace ++ [e] }

def populateAcceptors (workers : List Worker) (s : AcceptRoutingHandler R σ) : AcceptRoutingHandler R σ :=
  if s.acceptors ≠ [] then s else { s with acceptors := workers }

def setPipeline (connId : Nat) (pipeline : Option (RoutingPipeline σ)) (s : AcceptRoutingHandler R σ) :
    AcceptRoutingHandler R σ :=
  { s with routingPipelines := Function.update s.routingPipelines connId pipeline }

/-- `workers` are what `forEachWorker` goes through; `valid` says that the addresses can be had. -/
def read (routing : Routing R σ) (workers : List Worker) (valid : Bool) (s : AcceptRoutingHandler R σ) :
    AcceptRoutingHandler R σ :=
  let s := s.populateAcceptors workers
  let connId := s.nextConnId
  let s := { s with nextConnId := connId + 1 }
  if valid then (s.record (.accepted connId)).setPipeline connId (some { handler := routing.newHandler })
  else s.record (.invalid connId)

def onRoutingData (routing : Routing R σ) (connId : Nat) (routingData : R) (bufQueue : List UInt8)
    (s : AcceptRoutingHandler R σ) : Except RoutingStuck (AcceptRoutingHandler R σ) :=
  let s := s.record (.onRoutingData connId)
  match s.routingPipelines connId with
  | none => .ok s
  | some _ =>
      let s := s.setPipeline connId none
      match s.acceptors[routing.hash routingData % s.acceptors.length]? with
      | none => .error .undefined
      | some worker => .ok { s with posted := s.posted ++ [⟨connId, worker, routingData, bufQueue⟩] }

def onError (connId : Nat) (s : AcceptRoutingHandler R σ) : AcceptRoutingHandler R σ :=
  (s.record (.onError connId)).setPipeline connId none

def childRead (connId : Nat) (bytes : List UInt8) (child : Child R) : Child R :=
  if child.connId = connId then { child with received := child.received ++ bytes } else child

/-- The socket has bytes: `AsyncSocketHandler::readDataAvailable` of the pipeline that reads from it. -/
def readDataAvailable (routing : Routing R σ) (connId : Nat) (bytes : List UInt8) (s : AcceptRoutingHandler R σ) :
    Except RoutingStuck (AcceptRoutingHandler R σ) :=
  match s.routingPipelines connId with
  | some pipeline =>
      let parsed := routing.parseRoutingData pipeline.handler (pipeline.bufQueue ++ bytes)
      let s := s.setPipeline connId (some { handler := parsed.handler, bufQueue := parsed.queue })
      match parsed.routingData with
      | none => .ok s
      | some (routingData, bufQueue) => s.onRoutingData routing connId routingData bufQueue
  | none =>
      if s.children.any (·.connId = connId) then .ok { s with children := s.children.map (childRead connId bytes) }
      else .error .notCalled

/-- `readEOF` and `readErr`; a child pipeline deals with them itself. -/
def readFailed (connId : Nat) (s : AcceptRoutingHandler R σ) : Except RoutingStuck (AcceptRoutingHandler R σ) :=
  match s.routingPipelines connId with
  | some _ => .ok (s.onError connId)
  | none => if s.children.any (·.connId = connId) then .ok s else .error .notCalled

inductive Op (R : Type)
  | read (workers : List Worker) (valid : Bool)
  | readDataAvailable (connId : Nat) (bytes : List UInt8)
  | readFailed (connId : Nat)
  -- a routing handler makes its callbacks late or once more
  | onRoutingData (connId : Nat) (routingData : R) (bufQueue : List UInt8)
  | onError (connId : Nat)
  | runPosted (closure : Posted R)

variable [DecidableEq R]

/-- The closure makes the child pipeline, activates it and passes it the buffered bytes. -/
def runPosted (closure : Posted R) (s : AcceptRoutingHandler R σ) : Except RoutingStuck (AcceptRoutingHandler R σ) :=
  if closure ∈ s.posted then
    .ok { s with
      posted := s.posted.erase closure
      children := s.children ++ [⟨closure.connId, closure.worker, closure.routingData, closure.bufQueue⟩] }
  else .error .notCalled

def step (routing : Routing R σ) (s : AcceptRoutingHandler R σ) :
    Op R → Except RoutingStuck (AcceptRoutingHandler R σ)
  | .read workers valid => .ok (s.read routing workers valid)
  | .readDataAvailable connId bytes => s.readDataAvailable routing connId bytes
  | .readFailed connId => s.readFailed connId
  | .onRoutingData connId routingData bufQueue =>
      if connId < s.nextConnId ∧ (s.routingPipelines connId).isNone then
        s.onRoutingData routing connId routingData bufQueue
      else .error .notCalled
  | .onError connId => if connId < s.nextConnId then .ok (s.onError connId) else .error .notCalled
  | .runPosted closure => s.runPosted closure

abbrev run (routing : Routing R σ) (s : AcceptRoutingHandler R σ) (ops : List (Op R)) :
    Except RoutingStuck (AcceptRoutingHandler R σ) :=
  Transition.run (step routing) s ops

end AcceptRoutingHandler
end Wangle.Bootstrap
