import Wangle.Transition.Run

/-!
# `FileRegion`

The transfer of `count` bytes of a file to a socket. The read thread splices the file into a pipe and tells the
socket thread how much through a queue of sizes, the socket thread splices the pipe into the socket. A step is what
one of the threads does up to the next point at which the other can be seen to have moved on: a `splice` and the
arithmetic that follows it are steps of their own.
-/

namespace Wangle.Channel

inductive TransferStuck
  -- the thread is not there, or the kernel cannot do this
  | notPossible
  -- a `size_t` is to become negative
  | underflow
  deriving DecidableEq, Repr

structure FileReadHandler where
  bytesToRead : Nat
  registered : Bool := true
  deriving DecidableEq, Repr

structure FileWriteRequest where
  offset : Nat
  count : Nat
  started : Bool := false
  bytesInPipe : Nat := 0
  -- of the base class, with `bytesWritten`
  totalBytesWritten : Nat := 0
  queue : List Nat := []
  readHandler : Option FileReadHandler := none
  deriving DecidableEq, Repr

def FileWriteRequest.isComplete (request : FileWriteRequest) : Bool := request.totalBytesWritten = request.count

def FileWriteRequest.bytesWritten (count : Nat) (request : FileWriteRequest) : FileWriteRequest :=
  { request with totalBytesWritten := request.totalBytesWritten + count }

/-- Where the read thread stands in `handlerReady`. -/
inductive ReadThread
  | outside
  | spliced (bytes : Nat)
  | subtracted (bytes : Nat)
  deriving DecidableEq, Repr

/-- Where the socket thread stands in `performWrite`. -/
inductive SocketThread
  | outside
  | spliced (bytes : Nat)
  deriving DecidableEq, Repr

structure Transfer where
  file : List UInt8
  request : FileWriteRequest
  pipe : List UInt8 := []
  socket : List UInt8 := []
  reader : ReadThread := .outside
  writer : SocketThread := .outside
  -- `writeRequestReady` was called and `performWrite` not yet
  writeReady : Bool := false
  deriving DecidableEq, Repr

/-- Each step that calls `splice` has its result, `none` being `EAGAIN`. -/
inductive TransferOp
  | performWrite (spliced : Option Nat)
  | countWritten
  | startReading
  | handlerReady (spliced : Option Nat)
  | countRead
  | putMessage
  | messageAvailable
  deriving DecidableEq, Repr

def subtract (total bytes : Nat) : Except TransferStuck Nat :=
  if bytes ≤ total then .ok (total - bytes) else .error .underflow

namespace Transfer

/-- What `FileRegion::transferTo` hands to the socket. -/
def transferTo (file : List UInt8) (offset count : Nat) : Transfer := { file, request := { offset, count } }

def performWrite (spliced : Option Nat) (s : Transfer) : Except TransferStuck Transfer :=
  match s.writer with
  | .spliced _ => .error .notPossible
  | .outside =>
      let s := { s with writeReady := false }
      if !s.request.started then .ok { s with request := { s.request with started := true } }
      else match spliced with
        | none => .ok s
        | some bytes =>
            if bytes ≤ s.request.bytesInPipe ∧ bytes ≤ s.pipe.length then
              .ok { s with pipe := s.pipe.drop bytes, socket := s.socket ++ s.pipe.take bytes, writer := .spliced bytes }
            else .error .notPossible

def countWritten (s : Transfer) : Except TransferStuck Transfer :=
  match s.writer with
  | .outside => .error .notPossible
  | .spliced bytes => do
      let bytesInPipe ← subtract s.request.bytesInPipe bytes
      .ok { s with request := FileWriteRequest.bytesWritten bytes { s.request with bytesInPipe }, writer := .outside }

/-- What `start` posts to the read thread. It waits for the socket thread, to start consuming there. -/
def startReading (s : Transfer) : Except TransferStuck Transfer :=
  if s.request.started ∧ s.request.readHandler = none ∧ s.writer = .outside then
    .ok { s with request := { s.request with readHandler := some { bytesToRead := s.request.count } } }
  else .error .notPossible

def handlerReady (spliced : Option Nat) (s : Transfer) : Except TransferStuck Transfer :=
  match s.request.readHandler, s.reader with
  | none, _ => .error .notPossible
  | some _, .spliced _ => .error .notPossible
  | some _, .subtracted _ => .error .notPossible
  | some handler, .outside =>
      if handler.registered = false then .error .notPossible
      else if handler.bytesToRead = 0 then
        .ok { s with request := { s.request with readHandler := some { handler with registered := false } } }
      else match spliced with
        | none => .ok s
        | some bytes =>
            -- at the end of the file and behind it there is nothing, which is not an error
            if bytes ≤ handler.bytesToRead ∧ bytes ≤ s.file.length - s.request.offset then
              .ok { s with
                request := { s.request with offset := s.request.offset + bytes },
                pipe := s.pipe ++ (s.file.drop s.request.offset).take bytes,
                reader := if bytes > 0 then .spliced bytes else .outside }
            else .error .notPossible

def countRead (s : Transfer) : Except TransferStuck Transfer :=
  match s.request.readHandler, s.reader with
  | some handler, .spliced bytes => do
      let bytesToRead ← subtract handler.bytesToRead bytes
      .ok { s with
        request := { s.request with readHandler := some { handler with bytesToRead } }, reader := .subtracted bytes }
  | _, _ => .error .notPossible

def putMessage (s : Transfer) : Except TransferStuck Transfer :=
  match s.reader with
  | .subtracted bytes =>
      .ok { s with request := { s.request with queue := s.request.queue ++ [bytes] }, reader := .outside }
  | _ => .error .notPossible

def messageAvailable (s : Transfer) : Except TransferStuck Transfer :=
  match s.request.queue, s.writer with
  | count :: queue, .outside =>
      let shouldWrite : Bool := s.request.bytesInPipe = 0
      .ok { s with
        request := { s.request with queue, bytesInPipe := s.request.bytesInPipe + count },
        writeReady := s.writeReady || shouldWrite }
  | _, _ => .error .notPossible

def step (s : Transfer) : TransferOp → Except TransferStuck Transfer
  | .performWrite spliced => s.performWrite spliced
  | .countWritten => s.countWritten
  | .startReading => s.startReading
  | .handlerReady spliced => s.handlerReady spliced
  | .countRead => s.countRead
  | .putMessage => s.putMessage
  | .messageAvailable => s.messageAvailable

def run (s : Transfer) (ops : List TransferOp) : Except TransferStuck Transfer := Transition.run step s ops

end Transfer

/-- A transfer, and whether its request has been failed. -/
structure FallibleTransfer where
  transfer : Transfer
  failed : Bool := false
  deriving DecidableEq, Repr

/-- What can happen, with the errors that the kernel can report. -/
inductive FallibleOp
  | step (op : TransferOp)
  -- in what `start` posts to the read thread, before the handler is made and in its constructor
  | startFails
  | registerFails
  -- `splice` from the file, or to the socket, has another error than `EAGAIN`
  | readFails
  | writeFails
  | putMessageFails
  deriving DecidableEq, Repr

namespace FallibleTransfer

def transferTo (file : List UInt8) (offset count : Nat) : FallibleTransfer where
  transfer := .transferTo file offset count

def fail (s : FallibleTransfer) : FallibleTransfer := { s with failed := true }

/-- Whether `handlerReady` gets as far as `splice`. -/
def reads (s : Transfer) : Bool :=
  match s.request.readHandler, s.reader with
  | some handler, .outside => handler.registered && handler.bytesToRead > 0
  | _, _ => false

def step (s : FallibleTransfer) : FallibleOp → Except TransferStuck FallibleTransfer
  | .step op => (s.transfer.step op).map fun transfer => { s with transfer }
  | .startFails =>
      if s.transfer.request.started ∧ s.transfer.request.readHandler = none then .ok s.fail else .error .notPossible
  | .registerFails =>
      s.transfer.startReading.map fun transfer =>
        let readHandler := transfer.request.readHandler.map fun handler => { handler with registered := false }
        { s.fail with transfer := { transfer with request := { transfer.request with readHandler } } }
  | .readFails => if reads s.transfer then .ok s.fail else .error .notPossible
  | .writeFails =>
      if s.transfer.request.started ∧ s.transfer.writer = .outside then .ok s.fail else .error .notPossible
  | .putMessageFails => match s.transfer.reader with
      | .subtracted _ => .ok { s.fail with transfer := { s.transfer with reader := .outside } }
      | _ => .error .notPossible

def run (s : FallibleTransfer) (ops : List FallibleOp) : Except TransferStuck FallibleTransfer := Transition.run step s ops

end FallibleTransfer

end Wangle.Channel
