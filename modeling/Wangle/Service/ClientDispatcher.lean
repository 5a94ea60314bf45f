import Wangle.Transition.Run

/-!
# `SerialClientDispatcher` and `PipelinedClientDispatcher`

Requests are numbered from 0 in the order in which they are issued, and the promise of a request has its
number. A call of `operator()` is under way until the pipeline has written its request or has thrown, and
responses may be read meanwhile.
-/

namespace Wangle.Service

inductive Frame
  -- `operator()`, inside the write of its request
  | writing (i : Nat)
  -- `read`, inside `p_->setValue`, which runs the continuations of the future
  | fulfilling
  deriving DecidableEq, Repr

/-- The innermost call is the first of `calls`. A request is `written` when the other side gets to see it,
inside its write or later. -/
structure SerialClientDispatcher (Resp : Type) where
  p : Option Nat := none
  issued : Nat := 0
  calls : List Frame := []
  written : List Nat := []
  thrown : List Nat := []
  fulfilled : List (Nat × Resp) := []

namespace SerialClientDispatcher

inductive Stuck
  -- the `CHECK` that no request is outstanding
  | checkFailed
  -- the `DCHECK` that there is a promise
  | noPromise
  -- the innermost call is another one
  | notInnermost
  -- the request was not issued, has been written already or has failed
  | notWritable
  -- every request that was written has been answered
  | notAwaited
  deriving DecidableEq, Repr

variable {Resp : Type}

def call (s : SerialClientDispatcher Resp) : Except Stuck (SerialClientDispatcher Resp) :=
  match s.p with
  | some _ => .error .checkFailed
  | none => .ok { s with p := some s.issued, issued := s.issued + 1, calls := .writing s.issued :: s.calls }

def wrote (i : Nat) (s : SerialClientDispatcher Resp) : Except Stuck (SerialClientDispatcher Resp) :=
  if i < s.issued ∧ i ∉ s.written ∧ i ∉ s.thrown then .ok { s with written := s.written ++ [i] }
  else .error .notWritable

def returned (s : SerialClientDispatcher Resp) : Except Stuck (SerialClientDispatcher Resp) :=
  match s.calls with
  | .writing _ :: calls => .ok { s with calls := calls }
  | _ => .error .notInnermost

def threw (s : SerialClientDispatcher Resp) : Except Stuck (SerialClientDispatcher Resp) :=
  match s.calls with
  -- `p_` is left as it is
  | .writing i :: calls => .ok { s with calls := calls, thrown := i :: s.thrown }
  | _ => .error .notInnermost

def read (resp : Resp) (s : SerialClientDispatcher Resp) : Except Stuck (SerialClientDispatcher Resp) :=
  match s.p with
  | none => .error .noPromise
  | some promise => .ok { s with fulfilled := s.fulfilled ++ [(promise, resp)], calls := .fulfilling :: s.calls }

def continued (s : SerialClientDispatcher Resp) : Except Stuck (SerialClientDispatcher Resp) :=
  match s.calls with
  | .fulfilling :: calls => .ok { s with p := none, calls := calls }
  | _ => .error .notInnermost

inductive Op (Resp : Type)
  | call
  | wrote (i : Nat)
  -- the write has returned
  | returned
  -- the write has thrown
  | threw
  | response (resp : Resp)
  -- `setValue` has returned
  | continued

def step (s : SerialClientDispatcher Resp) : Op Resp → Except Stuck (SerialClientDispatcher Resp)
  | .call => s.call
  | .wrote i => s.wrote i
  | .returned => s.returned
  | .threw => s.threw
  | .response resp =>
      -- the other side answers the requests that were written, in their order
      if s.fulfilled.length < s.written.length then s.read resp else .error .notAwaited
  | .continued => s.continued

abbrev run (s : SerialClientDispatcher Resp) (ops : List (Op Resp)) :
    Except Stuck (SerialClientDispatcher Resp) :=
  Transition.run step s ops

end SerialClientDispatcher

structure PipelinedClientDispatcher (Resp : Type) where
  p : List Nat := []
  issued : Nat := 0
  writing : List Nat := []
  written : List Nat := []
  fulfilled : List (Nat × Resp) := []

namespace PipelinedClientDispatcher

inductive Stuck
  -- the `DCHECK` that there is a promise
  | checkFailed
  -- the write is not under way
  | notWriting
  -- every request that was written has been answered
  | notAwaited
  deriving DecidableEq, Repr

variable {Resp : Type}

def call (s : PipelinedClientDispatcher Resp) : PipelinedClientDispatcher Resp :=
  { s with p := s.p ++ [s.issued], issued := s.issued + 1, writing := s.issued :: s.writing }

def wrote (i : Nat) (s : PipelinedClientDispatcher Resp) : Except Stuck (PipelinedClientDispatcher Resp) :=
  if i ∈ s.writing then .ok { s with writing := s.writing.erase i, written := s.written ++ [i] }
  else .error .notWriting

def threw (i : Nat) (s : PipelinedClientDispatcher Resp) : Except Stuck (PipelinedClientDispatcher Resp) :=
  -- the promise stays in the deque
  if i ∈ s.writing then .ok { s with writing := s.writing.erase i } else .error .notWriting

def read (resp : Resp) (s : PipelinedClientDispatcher Resp) : Except Stuck (PipelinedClientDispatcher Resp) :=
  match s.p with
  | [] => .error .checkFailed
  | promise :: p => .ok { s with p := p, fulfilled := s.fulfilled ++ [(promise, resp)] }

inductive Op (Resp : Type)
  | call
  | wrote (i : Nat)
  | threw (i : Nat)
  | response (resp : Resp)

def step (s : PipelinedClientDispatcher Resp) : Op Resp → Except Stuck (PipelinedClientDispatcher Resp)
  | .call => .ok s.call
  | .wrote i => s.wrote i
  | .threw i => s.threw i
  | .response resp =>
      -- the other side answers the requests that were written, in their order
      if s.fulfilled.length < s.written.length then s.read resp else .error .notAwaited

abbrev run (s : PipelinedClientDispatcher Resp) (ops : List (Op Resp)) :
    Except Stuck (PipelinedClientDispatcher Resp) :=
  Transition.run step s ops

end PipelinedClientDispatcher
end Wangle.Service
