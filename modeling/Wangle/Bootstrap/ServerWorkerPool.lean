import Wangle.Transition.Run

/-!
# `ServerWorkerPool`

The workers and the listening sockets of a bootstrap. `bind`, `threadStarted` and `threadStopped` are called on
different threads, and a step is what one of these calls does before another one can come between: the map
of workers is written under a lock, and `forEachWorker` holds it while it registers all workers with a socket.
-/

namespace Wangle.Bootstrap

structure Worker where
  thread : Nat
  id : Nat
  deriving DecidableEq, Repr

/-- `workers_` is a map that is ordered by the thread handles, and `insert` keeps an entry that it has. -/
def insertWorker (w : Worker) : List Worker → List Worker
  | [] => [w]
  | v :: workers =>
      if w.thread < v.thread then w :: v :: workers
      else if w.thread = v.thread then v :: workers
      else v :: insertWorker w workers

def findWorker (thread : Nat) (workers : List Worker) : Option Worker := workers.find? (·.thread = thread)

inductive Call
  -- the workers are registered with the socket, which is not yet in `sockets_`
  | bind (socket : Nat)
  -- `threadStarted` has inserted the worker or `threadStopped` has removed it, and its loop has not begun
  | thread (starting : Bool) (w : Worker)
  deriving DecidableEq, Repr

def Call.worker? : Call → Option Worker
  | .bind _ => none
  | .thread _ w => some w

/-- The loop of `threadStarted` or `threadStopped` over the sockets that it has found in `sockets_`. -/
structure SocketLoop where
  starting : Bool
  worker : Worker
  todo : List Nat
  deriving DecidableEq, Repr

/-- `calls` are the calls in progress before their loops, in the order in which they began. -/
structure ServerBootstrap where
  workers : List Worker := []
  sockets : List Nat := []
  acceptCallbacks : List (Nat × Worker) := []
  calls : List Call := []
  loops : List SocketLoop := []
  nextSocket : Nat := 0
  nextWorker : Nat := 0
  deriving DecidableEq, Repr

inductive PoolOp
  | bind
  | pushSocket (socket : Nat)
  | threadStarted (thread : Nat)
  | threadStopped (thread : Nat)
  | beginLoop (starting : Bool) (w : Worker)
  | iterate (loop : SocketLoop)
  deriving DecidableEq, Repr

inductive PoolStuck
  -- there is no such call to go on with, or the executor does not make it now
  | notCalled
  deriving DecidableEq, Repr

namespace ServerBootstrap

/-- The executor starts and stops a thread once at a time. -/
def isBusy (s : ServerBootstrap) (thread : Nat) : Bool :=
  s.calls.any (fun call => call.worker?.any (·.thread = thread)) ||
    s.loops.any (fun loop => loop.worker.thread = thread)

def bindSocket (s : ServerBootstrap) : ServerBootstrap :=
  { s with
    acceptCallbacks := s.acceptCallbacks ++ s.workers.map (s.nextSocket, ·)
    calls := s.calls ++ [.bind s.nextSocket]
    nextSocket := s.nextSocket + 1 }

def pushSocket (s : ServerBootstrap) (socket : Nat) : Except PoolStuck ServerBootstrap :=
  if .bind socket ∈ s.calls then
    .ok { s with sockets := s.sockets ++ [socket], calls := s.calls.erase (.bind socket) }
  else .error .notCalled

def threadStarted (s : ServerBootstrap) (thread : Nat) : Except PoolStuck ServerBootstrap :=
  if s.isBusy thread ∨ (findWorker thread s.workers).isSome then .error .notCalled
  else
    .ok { s with
      workers := insertWorker ⟨thread, s.nextWorker⟩ s.workers
      calls := s.calls ++ [.thread true ⟨thread, s.nextWorker⟩]
      nextWorker := s.nextWorker + 1 }

def threadStopped (s : ServerBootstrap) (thread : Nat) : Except PoolStuck ServerBootstrap :=
  if s.isBusy thread then .error .notCalled
  else match findWorker thread s.workers with
    | none => .ok s
    | some w => .ok { s with workers := s.workers.erase w, calls := s.calls ++ [.thread false w] }

def beginLoop (s : ServerBootstrap) (starting : Bool) (w : Worker) : Except PoolStuck ServerBootstrap :=
  if .thread starting w ∈ s.calls then
    .ok { s with calls := s.calls.erase (.thread starting w), loops := ⟨starting, w, s.sockets⟩ :: s.loops }
  else .error .notCalled

def iterate (s : ServerBootstrap) (loop : SocketLoop) : Except PoolStuck ServerBootstrap :=
  if loop ∈ s.loops then
    match loop.todo with
    | [] => .ok { s with loops := s.loops.erase loop }
    | socket :: todo =>
        .ok { s with
          acceptCallbacks :=
            if loop.starting then s.acceptCallbacks ++ [(socket, loop.worker)]
            else s.acceptCallbacks.erase (socket, loop.worker)
          loops := ⟨loop.starting, loop.worker, todo⟩ :: s.loops.erase loop }
  else .error .notCalled

def step (s : ServerBootstrap) : PoolOp → Except PoolStuck ServerBootstrap
  | .bind => .ok s.bindSocket
  | .pushSocket socket => s.pushSocket socket
  | .threadStarted thread => s.threadStarted thread
  | .threadStopped thread => s.threadStopped thread
  | .beginLoop starting w => s.beginLoop starting w
  | .iterate loop => s.iterate loop

abbrev run (s : ServerBootstrap) (ops : List PoolOp) : Except PoolStuck ServerBootstrap :=
  Transition.run step s ops

end ServerBootstrap
end Wangle.Bootstrap
