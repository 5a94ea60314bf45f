import Wangle.Transition.Run

/-!
# `OutputBufferingHandler`

A step is a call of the handler up to the first future that it completes. Completing a future runs its continuation,
which can call the handler again: the steps between two completions are what the continuation does. Calls are
nested, so the futures that a call completes wait until the calls that came from the last one have returned.
-/

namespace Wangle.Channel

inductive SendResult (X : Type)
  | success
  | failure (error : X)
  -- "close() called while sends still pending"
  | pendingAtClose
  | brokenPromise
  deriving DecidableEq, Repr

def SendResult.isError {X : Type} : SendResult X → Bool
  | .success => false
  | .failure _ => true
  | .pendingAtClose => true
  | .brokenPromise => true

structure Buffer where
  write : Nat
  bytes : List UInt8
  deriving DecidableEq, Repr

structure SharedPromise (X : Type) where
  result : Option (SendResult X) := none
  -- the writes that wait for their futures
  promises : List Nat := []
  deriving DecidableEq, Repr

structure Batch (X : Type) where
  buffers : List Buffer
  promises : List Nat
  result : Option (SendResult X) := none
  deriving DecidableEq, Repr

structure Completing (X : Type) where
  promises : List Nat
  result : SendResult X
  -- by `setException` in `close`, which then goes on
  closes : Bool := false
  deriving DecidableEq, Repr

inductive BufferingStuck
  | notCalled
  -- one of the two `DCHECK`s in `write`
  | dcheck
  deriving DecidableEq, Repr

structure OutputBufferingHandler (X : Type) where
  queueSends : Bool := true
  sends : Option (List Buffer) := none
  loopCallbackScheduled : Bool := false
  sharedPromise : SharedPromise X := {}
  written : List Buffer := []
  batches : List (Batch X) := []
  completing : List (Completing X) := []
  completions : List (Nat × SendResult X) := []
  -- the writes that were queued when `close` or `cleanUp` was called
  discarded : List Nat := []
  closes : Nat := 0
  deriving DecidableEq, Repr

namespace OutputBufferingHandler
variable {X : Type}

inductive Op (X : Type)
  | write (bytes : List UInt8)
  | runLoopCallback
  -- the write with this number that was passed down completes
  | complete (batch : Nat) (failure : Option X)
  | cleanUp
  | close
  -- the next future is completed, or the call that has completed its futures goes on
  | resume
  deriving DecidableEq, Repr

def queue (s : OutputBufferingHandler X) : List Buffer := s.sends.getD []

def fireWrite (buffers : List Buffer) (promises : List Nat) (s : OutputBufferingHandler X) : OutputBufferingHandler X :=
  { s with batches := s.batches ++ [{ buffers, promises }] }

def getFuture (write : Nat) (s : OutputBufferingHandler X) : OutputBufferingHandler X :=
  match s.sharedPromise.result with
  | none => { s with sharedPromise := { s.sharedPromise with promises := s.sharedPromise.promises ++ [write] } }
  | some result => { s with completions := s.completions ++ [(write, result)] }

def write (debug : Bool) (bytes : List UInt8) (s : OutputBufferingHandler X) :
    Except BufferingStuck (OutputBufferingHandler X) :=
  let buffer : Buffer := { write := s.written.length, bytes }
  let s := { s with written := s.written ++ [buffer] }
  if !s.queueSends then .ok (s.fireWrite [buffer] [buffer.write])
  else match s.sends with
    | none =>
        if debug && s.loopCallbackScheduled then .error .dcheck
        else .ok (getFuture buffer.write { s with sends := some [buffer], loopCallbackScheduled := true })
    | some sends =>
        if debug && !s.loopCallbackScheduled then .error .dcheck
        else .ok (getFuture buffer.write { s with sends := some (sends ++ [buffer]) })

def runLoopCallback (s : OutputBufferingHandler X) : Except BufferingStuck (OutputBufferingHandler X) :=
  if s.loopCallbackScheduled ∧ s.completing = [] then
    .ok (fireWrite s.queue s.sharedPromise.promises
      { s with sends := none, loopCallbackScheduled := false, sharedPromise := {} })
  else .error .notCalled

def resultOf : Option X → SendResult X
  | none => .success
  | some error => .failure error

def complete (batch : Nat) (failure : Option X) (s : OutputBufferingHandler X) :
    Except BufferingStuck (OutputBufferingHandler X) :=
  match s.batches[batch]? with
  | some { buffers, promises, result := none } =>
      let result := resultOf failure
      .ok { s with
        batches := s.batches.set batch { buffers, promises := [], result := some result },
        completing := { promises, result } :: s.completing }
  | _ => .error .notCalled

/-- What `cleanUp` and `close` begin with, and the futures that they complete. -/
def abandon (result : SendResult X) (closes : Bool) (s : OutputBufferingHandler X) : OutputBufferingHandler X :=
  { s with
    loopCallbackScheduled := false,
    discarded := s.discarded ++ s.queue.map (·.write),
    completing := { promises := s.sharedPromise.promises, result, closes } :: s.completing }

/-- The promises of the old shared promise are broken when it is destroyed, after the assignment. -/
def cleanUp (s : OutputBufferingHandler X) : OutputBufferingHandler X :=
  { s.abandon .brokenPromise false with sends := none, sharedPromise := {} }

/-- `close` up to the end of `setException`, which throws if the promise has its result already. -/
def close (s : OutputBufferingHandler X) : OutputBufferingHandler X :=
  if s.sharedPromise.result.isSome then { s with loopCallbackScheduled := false }
  else { s.abandon .pendingAtClose true with sharedPromise := { result := some .pendingAtClose } }

def finishClose (s : OutputBufferingHandler X) : OutputBufferingHandler X :=
  { s with
    sends := none,
    sharedPromise := {},
    completing := { promises := s.sharedPromise.promises, result := .brokenPromise } :: s.completing,
    closes := s.closes + 1 }

def resume (s : OutputBufferingHandler X) : Except BufferingStuck (OutputBufferingHandler X) :=
  match s.completing with
  | [] => .error .notCalled
  | { promises := write :: promises, result, closes } :: completing =>
      .ok { s with
        completions := s.completions ++ [(write, result)],
        completing := { promises, result, closes } :: completing }
  | { promises := [], result := _, closes } :: completing =>
      if closes then .ok (finishClose { s with completing }) else .ok { s with completing }

/-- With `debug` the `DCHECK`s are compiled in. -/
def step (debug : Bool) (s : OutputBufferingHandler X) : Op X → Except BufferingStuck (OutputBufferingHandler X)
  | .write bytes => s.write debug bytes
  | .runLoopCallback => s.runLoopCallback
  | .complete batch failure => s.complete batch failure
  | .cleanUp => .ok s.cleanUp
  | .close => .ok s.close
  | .resume => s.resume

abbrev run (debug : Bool) (s : OutputBufferingHandler X) (ops : List (Op X)) :
    Except BufferingStuck (OutputBufferingHandler X) :=
  Transition.run (step debug) s ops

end OutputBufferingHandler

end Wangle.Channel
