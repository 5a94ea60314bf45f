import Wangle.Transition.Run
import Wangle.Linked.Chain

/-!
# `PipelineBase`, `Pipeline` and the attachment of handlers

Any number of pipelines share any handlers. Each handler that is added to a pipeline gets a context of its own,
and `added` lists all contexts in the order in which they were made. No pipeline has an owner.
-/

namespace Wangle.Channel
open Linked

inductive HandlerDir
  | inbound
  | outbound
  | both
  deriving DecidableEq, Repr

structure HandlerClass (T : Type) where
  name : String
  dir : HandlerDir
  rin : T
  rout : T
  win : T
  wout : T
  deriving DecidableEq, Repr

structure Context (H T : Type) where
  id : Nat
  handler : H
  type : HandlerClass T
  deriving DecidableEq, Repr

structure InvalidArgument where
  what : String
  deriving DecidableEq, Repr

inductive PipelineFault
  | checkFailed
  deriving DecidableEq, Repr

variable {P H T : Type}

namespace Context

def isInbound (c : Context H T) : Bool := c.type.dir = .both ∨ c.type.dir = .inbound

def isOutbound (c : Context H T) : Bool := c.type.dir = .both ∨ c.type.dir = .outbound

end Context

structure HandlerBase (H T : Type) where
  attachCount : Nat := 0
  ctx : Option (Context H T) := none

def HandlerBase.getContext (h : HandlerBase H T) : Except PipelineFault (Option (Context H T)) :=
  if h.attachCount ≠ 1 then .ok none
  else match h.ctx with
    | none => .error .checkFailed
    | some c => .ok (some c)

inductive Delivery (H T : Type)
  | attach (c : Context H T)
  | detach (c : Context H T)
  deriving DecidableEq

def Delivery.ctx : Delivery H T → Context H T
  | .attach c => c
  | .detach c => c

structure Attachments (H T : Type) where
  handlers : H → HandlerBase H T := fun _ => {}
  attached : Context H T → Bool := fun _ => false
  delivered : List (Delivery H T) := []

namespace Attachments
variable [DecidableEq H] [DecidableEq T]

def attachContext (a : Attachments H T) (c : Context H T) : Attachments H T :=
  let count := (a.handlers c.handler).attachCount + 1
  { a with
    handlers := Function.update a.handlers c.handler
      { attachCount := count, ctx := if count = 1 then some c else none } }

def detachContext (a : Attachments H T) (c : Context H T) : Attachments H T :=
  let count := (a.handlers c.handler).attachCount
  { a with
    handlers := Function.update a.handlers c.handler
      { attachCount := if 1 ≤ count then count - 1 else count, ctx := none } }

def attachPipeline (a : Attachments H T) (c : Context H T) : Attachments H T :=
  if a.attached c then a
  else
    let a := a.attachContext c
    { a with delivered := a.delivered ++ [.attach c], attached := Function.update a.attached c true }

def detachPipeline (a : Attachments H T) (c : Context H T) : Attachments H T :=
  detachContext
    { a with delivered := a.delivered ++ [.detach c], attached := Function.update a.attached c false } c

end Attachments

/-- The links of a context that was removed stay as they were. -/
structure Pipeline (H T : Type) where
  r : T
  w : T
  ctxs : List (Context H T) := []
  inCtxs : List (Context H T) := []
  outCtxs : List (Context H T) := []
  nextIn : Context H T → Option (Context H T) := fun _ => none
  nextOut : Context H T → Option (Context H T) := fun _ => none
  front : Option (Context H T) := none
  back : Option (Context H T) := none

inductive InboundEvent
  | read
  | readEOF
  | readException
  deriving DecidableEq, Repr

inductive OutboundEvent
  | write
  | writeException
  | close
  deriving DecidableEq, Repr

def InboundEvent.what : InboundEvent → String
  | .read => "read(): no inbound handler in Pipeline"
  | .readEOF => "readEOF(): no inbound handler in Pipeline"
  | .readException => "readException(): no inbound handler in Pipeline"

def OutboundEvent.what : OutboundEvent → String
  | .write => "write(): no outbound handler in Pipeline"
  | .writeException => "writeException(): no outbound handler in Pipeline"
  | .close => "close(): no outbound handler in Pipeline"

namespace Pipeline

def addHelper (c : Context H T) (front : Bool) (pipeline : Pipeline H T) : Pipeline H T :=
  let insert (ctxs : List (Context H T)) := if front then c :: ctxs else ctxs ++ [c]
  { pipeline with
    ctxs := insert pipeline.ctxs
    inCtxs := if c.isInbound then insert pipeline.inCtxs else pipeline.inCtxs
    outCtxs := if c.isOutbound then insert pipeline.outCtxs else pipeline.outCtxs }

section
variable [DecidableEq H] [DecidableEq T]

/-- In the list of the handlers of a direction: `std::find`, the `CHECK` that it has found something, `erase`. -/
def eraseChecked (directed : Context H T → Bool) (c : Context H T) (ctxs : List (Context H T)) :
    Except PipelineFault (List (Context H T)) :=
  if directed c then
    if c ∈ ctxs then .ok (ctxs.erase c) else .error .checkFailed
  else .ok ctxs

def removeAt (c : Context H T) (pipeline : Pipeline H T) : Except PipelineFault (Pipeline H T) := do
  let inCtxs ← eraseChecked Context.isInbound c pipeline.inCtxs
  let outCtxs ← eraseChecked Context.isOutbound c pipeline.outCtxs
  return { pipeline with inCtxs := inCtxs, outCtxs := outCtxs, ctxs := pipeline.ctxs.erase c }

def linkIn (pipeline : Pipeline H T) : Pipeline H T × Option InvalidArgument :=
  let links := relink (fun c d => d.type.rin = c.type.rout) pipeline.inCtxs pipeline.nextIn
  ({ pipeline with front := pipeline.inCtxs.head?.filter (·.type.rin = pipeline.r), nextIn := links.1 },
    links.2.map fun c => ⟨"inbound type mismatch after " ++ c.type.name⟩)

def linkOut (pipeline : Pipeline H T) : Pipeline H T × Option InvalidArgument :=
  let links := relink (fun c d => d.type.win = c.type.wout) pipeline.outCtxs.reverse pipeline.nextOut
  ({ pipeline with back := pipeline.outCtxs.getLast?.filter (·.type.win = pipeline.w), nextOut := links.1 },
    links.2.map fun c => ⟨"outbound type mismatch after " ++ c.type.name⟩)

/-- `finalize` up to the attachment of the contexts. -/
def link (pipeline : Pipeline H T) : Pipeline H T × Option InvalidArgument :=
  match pipeline.linkIn with
  | (pipeline, some e) => (pipeline, some e)
  | (pipeline, none) => pipeline.linkOut

end

/-- The contexts that an event visits when every handler passes it on. -/
def fire (what : String) (next : Context H T → Option (Context H T)) (fuel : Nat) :
    Option (Context H T) → Except InvalidArgument (Option (List (Context H T)))
  | none => .error ⟨what⟩
  | some c => .ok (follow next fuel (some c))

def fireIn (event : InboundEvent) (fuel : Nat) (pipeline : Pipeline H T) :
    Except InvalidArgument (Option (List (Context H T))) :=
  fire event.what pipeline.nextIn fuel pipeline.front

def fireOut (event : OutboundEvent) (fuel : Nat) (pipeline : Pipeline H T) :
    Except InvalidArgument (Option (List (Context H T))) :=
  fire event.what pipeline.nextOut fuel pipeline.back

end Pipeline

structure Pipelines (P H T : Type) where
  pipelines : P → Pipeline H T
  added : List (Context H T) := []
  attachments : Attachments H T := {}

namespace Pipelines

def init (r w : P → T) : Pipelines P H T := { pipelines := fun p => { r := r p, w := w p } }

variable [DecidableEq P] [DecidableEq H] [DecidableEq T]

def set (s : Pipelines P H T) (p : P) (pipeline : Pipeline H T) : Pipelines P H T :=
  { s with pipelines := Function.update s.pipelines p pipeline }

def add (p : P) (handler : H) (type : HandlerClass T) (front : Bool) (s : Pipelines P H T) : Pipelines P H T :=
  let c : Context H T := { id := s.added.length, handler, type }
  { s.set p ((s.pipelines p).addHelper c front) with added := s.added ++ [c] }

def removeAt (p : P) (c : Context H T) (s : Pipelines P H T) : Except PipelineFault (Pipelines P H T) := do
  let s := { s with attachments := s.attachments.detachPipeline c }
  return s.set p (← (s.pipelines p).removeAt c)

/-- The loop of `removeHelper`, with the contexts from the iterator on. -/
def removeLoop (p : P) (chosen : Context H T → Bool) :
    List (Context H T) → Bool → Pipelines P H T → Except PipelineFault (Pipelines P H T × Bool)
  | [], removed, s => .ok (s, removed)
  | c :: rest, removed, s =>
      if chosen c then do removeLoop p chosen rest true (← s.removeAt p c)
      else removeLoop p chosen rest removed s

def removeHelper (p : P) (chosen : Context H T → Bool) (s : Pipelines P H T) :
    Except PipelineFault (Pipelines P H T × Option InvalidArgument) := do
  let (s, removed) ← removeLoop p chosen (s.pipelines p).ctxs false s
  return (s, if removed then none else some ⟨"No such handler in pipeline"⟩)

def remove (p : P) (handler : H) (type : HandlerClass T) :
    Pipelines P H T → Except PipelineFault (Pipelines P H T × Option InvalidArgument) :=
  removeHelper p fun c => c.type = type ∧ c.handler = handler

def removeType (p : P) (type : HandlerClass T) :
    Pipelines P H T → Except PipelineFault (Pipelines P H T × Option InvalidArgument) :=
  removeHelper p fun c => c.type = type

def removeEnd (p : P) (last : Option (Context H T)) (s : Pipelines P H T) :
    Except PipelineFault (Pipelines P H T × Option InvalidArgument) :=
  match last with
  | none => .ok (s, some ⟨"No handlers in pipeline"⟩)
  | some c => do return (← s.removeAt p c, none)

def removeFront (p : P) (s : Pipelines P H T) : Except PipelineFault (Pipelines P H T × Option InvalidArgument) :=
  s.removeEnd p (s.pipelines p).ctxs.head?

def removeBack (p : P) (s : Pipelines P H T) : Except PipelineFault (Pipelines P H T × Option InvalidArgument) :=
  s.removeEnd p (s.pipelines p).ctxs.getLast?

def finalize (p : P) (s : Pipelines P H T) : Pipelines P H T × Option InvalidArgument :=
  match (s.pipelines p).link with
  | (pipeline, some e) => (s.set p pipeline, some e)
  | (pipeline, none) =>
      ({ s.set p pipeline with attachments := pipeline.ctxs.reverse.foldl .attachPipeline s.attachments }, none)

/-- `~Pipeline`, with `detachHandlers`. The name of the pipeline is free for a new one. -/
def destroy (p : P) (s : Pipelines P H T) : Pipelines P H T :=
  { s.set p { r := (s.pipelines p).r, w := (s.pipelines p).w } with
    attachments := (s.pipelines p).ctxs.foldl .detachPipeline s.attachments }

inductive Op (P H T : Type)
  | addFront (p : P) (handler : H) (type : HandlerClass T)
  | addBack (p : P) (handler : H) (type : HandlerClass T)
  | remove (p : P) (handler : H) (type : HandlerClass T)
  | removeType (p : P) (type : HandlerClass T)
  | removeFront (p : P)
  | removeBack (p : P)
  | finalize (p : P)
  | destroy (p : P)

def step (s : Pipelines P H T) : Op P H T → Except PipelineFault (Pipelines P H T)
  | .addFront p handler type => .ok (s.add p handler type true)
  | .addBack p handler type => .ok (s.add p handler type false)
  | .remove p handler type => (s.remove p handler type).map Prod.fst
  | .removeType p type => (s.removeType p type).map Prod.fst
  | .removeFront p => (s.removeFront p).map Prod.fst
  | .removeBack p => (s.removeBack p).map Prod.fst
  | .finalize p => .ok (s.finalize p).1
  | .destroy p => .ok (s.destroy p)

abbrev run (s : Pipelines P H T) (ops : List (Op P H T)) : Except PipelineFault (Pipelines P H T) :=
  Transition.run step s ops

end Pipelines
end Wangle.Channel
