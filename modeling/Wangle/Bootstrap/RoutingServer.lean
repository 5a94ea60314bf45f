import Wangle.Bootstrap.AcceptRoutingHandler

/-!
# The routing handlers of a pool

Each worker has an accept pipeline with an `AcceptRoutingHandler` of its own, and all of them take their
workers from the one pool.
-/

namespace Wangle.Bootstrap

structure Route (R : Type) where
  routingData : R
  worker : Worker
  pool : List Worker
  deriving DecidableEq

structure RoutingServer (R σ : Type) where
  pool : ServerBootstrap := {}
  handlers : Worker → AcceptRoutingHandler R σ := fun _ => {}
  routes : List (Route R) := []

inductive ServerOp (R : Type)
  | pool (op : PoolOp)
  -- the worker accepts a connection, and its handler goes through the pool
  | accept (w : Worker) (valid : Bool)
  | handler (w : Worker) (op : AcceptRoutingHandler.Op R)

namespace RoutingServer
variable {R σ : Type}

def hasAcceptor (s : RoutingServer R σ) (w : Worker) : Bool :=
  w ∈ s.pool.workers || s.pool.calls.any (·.worker? = some w) || s.pool.loops.any (·.worker = w)

def picked (before after : AcceptRoutingHandler R σ) : List (Posted R) := after.posted.drop before.posted.length

def route (pool : List Worker) (closure : Posted R) : Route R := ⟨closure.routingData, closure.worker, pool⟩

variable [DecidableEq R]

def handle (routing : Routing R σ) (s : RoutingServer R σ) (w : Worker) (op : AcceptRoutingHandler.Op R) :
    Except RoutingStuck (RoutingServer R σ) :=
  if s.hasAcceptor w then
    match (s.handlers w).step routing op with
    | .error e => .error e
    | .ok handler =>
        .ok { s with
          handlers := Function.update s.handlers w handler
          routes := s.routes ++ (picked (s.handlers w) handler).map (route s.pool.workers) }
  else .error .notCalled

def step (routing : Routing R σ) (s : RoutingServer R σ) : ServerOp R → Except RoutingStuck (RoutingServer R σ)
  | .pool op => match s.pool.step op with
      | .error _ => .error .notCalled
      | .ok pool => .ok { s with pool := pool }
  | .accept w valid => s.handle routing w (.read s.pool.workers valid)
  | .handler _ (.read _ _) => .error .notCalled
  | .handler w op => s.handle routing w op

abbrev run (routing : Routing R σ) (s : RoutingServer R σ) (ops : List (ServerOp R)) :
    Except RoutingStuck (RoutingServer R σ) :=
  Transition.run (step routing) s ops

end RoutingServer
end Wangle.Bootstrap
