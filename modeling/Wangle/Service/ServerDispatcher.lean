import Wangle.Transition.Run
import Mathlib.Logic.Function.Basic

/-!
# `PipelinedServerDispatcher`

The dispatcher with the requests it has read, what has become of their futures, and what it has written.
A write into the pipeline is under way until it returns or throws, and anything may happen meanwhile.
-/

namespace Wangle.Service

inductive Outcome (Resp : Type)
  | pending
  | failed
  | succeeded (resp : Resp)
  deriving DecidableEq, Repr

/-- `requestId` is the one that the continuation of the request's future has captured. -/
structure Request (Resp : Type) where
  requestId : UInt32
  outcome : Outcome Resp
  deriving DecidableEq, Repr

/-- The events that cannot happen in a state. -/
inductive Refused
  | notPending
  | notWriting
  deriving DecidableEq, Repr

structure PipelinedServerDispatcher (Resp : Type) where
  requestId : UInt32 := 1
  responses : UInt32 → Option Resp := fun _ => none
  lastWrittenId : UInt32 := 0
  requests : List (Request Resp) := []
  writing : List Resp := []
  written : List Resp := []

namespace PipelinedServerDispatcher
variable {Resp : Type} (throws : Resp → Bool)

def fireWrite (resp : Resp) (s : PipelinedServerDispatcher Resp) : PipelinedServerDispatcher Resp :=
  { s with
    writing := resp :: s.writing
    written := if throws resp then s.written else s.written ++ [resp] }

/-- The loop as far as its next write; `writeEnds` takes it up again. -/
def sendResponses (s : PipelinedServerDispatcher Resp) : PipelinedServerDispatcher Resp :=
  match s.responses (s.lastWrittenId + 1) with
  | none => s
  | some resp =>
      fireWrite throws resp
        { s with responses := Function.update s.responses (s.lastWrittenId + 1) none }

def writeEnds (s : PipelinedServerDispatcher Resp) : Except Refused (PipelinedServerDispatcher Resp) :=
  match s.writing with
  | [] => .error .notWriting
  | resp :: writing =>
      -- the exception leaves the loop before `lastWrittenId_++`
      if throws resp then .ok { s with writing := writing }
      else .ok (sendResponses throws { s with writing := writing, lastWrittenId := s.lastWrittenId + 1 })

def read (s : PipelinedServerDispatcher Resp) : PipelinedServerDispatcher Resp :=
  { s with
    requestId := s.requestId + 1
    requests := s.requests ++ [⟨s.requestId, .pending⟩] }

/-- The future of request `i` completes; `none` is an exception, for which the continuation is not run. -/
def complete (i : Nat) (result : Option Resp) (s : PipelinedServerDispatcher Resp) :
    Except Refused (PipelinedServerDispatcher Resp) :=
  match s.requests[i]? with
  | some ⟨requestId, .pending⟩ => match result with
      | none => .ok { s with requests := s.requests.set i ⟨requestId, .failed⟩ }
      | some resp =>
          .ok <| sendResponses throws
            { s with
              requests := s.requests.set i ⟨requestId, .succeeded resp⟩
              responses := Function.update s.responses requestId (some resp) }
  | _ => .error .notPending

inductive Op (Resp : Type)
  | read
  | complete (i : Nat) (result : Option Resp)
  | writeEnds

def step (s : PipelinedServerDispatcher Resp) : Op Resp → Except Refused (PipelinedServerDispatcher Resp)
  | .read => .ok s.read
  | .complete i result => s.complete throws i result
  | .writeEnds => s.writeEnds throws

abbrev run (s : PipelinedServerDispatcher Resp) (ops : List (Op Resp)) :
    Except Refused (PipelinedServerDispatcher Resp) :=
  Transition.run (step throws) s ops

end PipelinedServerDispatcher
end Wangle.Service
