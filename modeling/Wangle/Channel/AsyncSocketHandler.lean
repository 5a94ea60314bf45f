import Wangle.Transition.Run

/-!
# `AsyncSocketHandler`

A handler in a finalized pipeline, with the calls that are under way on its stack. The handlers downstream, the socket
and the manager of the pipeline can call the handler before they return.
-/

namespace Wangle.Channel

inductive TransportEvent
  | transportActive
  | transportInactive
  deriving DecidableEq, Repr

inductive Detacher
  | transportInactive
  | detachEventBase
  | shutdown
  | detachPipeline
  | destructor
  deriving DecidableEq, Repr

/-- Other code that has been called and has not returned. -/
inductive SocketFrame
  | fireTransportActive
  | fireTransportInactive (next : Detacher)
  -- `closeNow` or `closeWithReset`
  | close
  | deletePipeline
  deriving DecidableEq, Repr

structure AsyncSocketHandler where
  -- whether `socket_` is not null
  socket : Bool
  -- whether the socket has this handler as its read callback
  readCallback : Bool := false
  eventBase : Bool := true
  -- whether `getContext` returns the context
  context : Bool := true
  firedInactive : Bool := false
  pipelineDeleted : Bool := false
  -- whether the pipeline has the socket as its transport
  transport : Bool := false
  destroyed : Bool := false
  -- by the next handler, from the first event on
  received : List TransportEvent := []
  -- how often `deletePipeline` was called
  deletions : Nat := 0
  stack : List SocketFrame := []
  deriving DecidableEq, Repr

namespace AsyncSocketHandler

inductive Fault
  | nullSocket
  | destroyed
  -- nothing has been called that could return
  | notCalled
  deriving DecidableEq, Repr

inductive Op
  -- `good` is what the socket says of itself
  | transportActive (good : Bool)
  | transportInactive
  | detachEventBase
  | close (shutdownWriteOnly : Bool)
  | writeException
  | detachPipeline
  | destructor
  -- the socket drops its read callback, at the end of the data or after an error
  | readEnds
  | returns
  deriving DecidableEq, Repr

def call (frame : SocketFrame) (h : AsyncSocketHandler) : AsyncSocketHandler := { h with stack := frame :: h.stack }

def fire (event : TransportEvent) (h : AsyncSocketHandler) : AsyncSocketHandler :=
  { h with received := h.received ++ [event] }

def detached (next : Detacher) (h : AsyncSocketHandler) : Except Fault AsyncSocketHandler :=
  match next with
  | .transportInactive => .ok { h with transport := false }
  | .detachEventBase => if h.socket then .ok { h with eventBase := false } else .error .nullSocket
  -- a socket that is closed drops its read callback
  | .shutdown => .ok (call .close { h with readCallback := false })
  -- the context is detached after the handler
  | .detachPipeline => .ok { h with context := false }
  | .destructor => .ok { h with destroyed := true }

def detachReadCallback (next : Detacher) (h : AsyncSocketHandler) : Except Fault AsyncSocketHandler :=
  let h := { h with readCallback := false }
  if h.context && !h.firedInactive then
    .ok (call (.fireTransportInactive next) (fire .transportInactive { h with firedInactive := true }))
  else h.detached next

def transportActive (good : Bool) (h : AsyncSocketHandler) : Except Fault AsyncSocketHandler :=
  if h.socket then
    .ok (call .fireTransportActive
      (fire .transportActive { h with transport := true, readCallback := good, firedInactive := false }))
  else .error .nullSocket

def deletePipeline (h : AsyncSocketHandler) : AsyncSocketHandler :=
  if h.pipelineDeleted then h
  else call .deletePipeline { h with pipelineDeleted := true, deletions := h.deletions + 1 }

def shutdown (h : AsyncSocketHandler) : Except Fault AsyncSocketHandler :=
  if h.socket then h.detachReadCallback .shutdown else .ok h.deletePipeline

def close (shutdownWriteOnly : Bool) (h : AsyncSocketHandler) : Except Fault AsyncSocketHandler :=
  if shutdownWriteOnly then if h.socket then .ok h else .error .nullSocket
  else h.shutdown

def returns (h : AsyncSocketHandler) : Except Fault AsyncSocketHandler :=
  match h.stack with
  | [] => .error .notCalled
  | .fireTransportActive :: stack => .ok { h with stack }
  | .fireTransportInactive next :: stack => if h.destroyed then .error .destroyed else { h with stack }.detached next
  | .close :: stack => if h.destroyed then .error .destroyed else .ok { h with stack }.deletePipeline
  | .deletePipeline :: stack => .ok { h with stack }

def step (h : AsyncSocketHandler) (op : Op) : Except Fault AsyncSocketHandler :=
  if op = .returns then h.returns
  else if h.destroyed then .error .destroyed
  else match op with
    | .transportActive good => h.transportActive good
    | .transportInactive => h.detachReadCallback .transportInactive
    | .detachEventBase => h.detachReadCallback .detachEventBase
    | .close shutdownWriteOnly => h.close shutdownWriteOnly
    | .writeException => h.shutdown
    | .detachPipeline => h.detachReadCallback .detachPipeline
    | .destructor => h.detachReadCallback .destructor
    | .readEnds => .ok { h with readCallback := false }
    | .returns => h.returns

abbrev run (h : AsyncSocketHandler) (ops : List Op) : Except Fault AsyncSocketHandler := Transition.run step h ops

end AsyncSocketHandler
end Wangle.Channel
