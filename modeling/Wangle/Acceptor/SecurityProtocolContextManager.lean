import Wangle.Acceptor.PeekingAcceptorHandshakeHelper
import Wangle.Transition.Run

/-!
# `SecurityProtocolContextManager`

The peekers of a secure port, and a connection to it with the bytes that its client sends.
-/

namespace Wangle.Acceptor

/-- `getHelper` can fail a `CHECK` on the number of bytes, and no other. -/
structure PeekingCallback where
  bytesRequired : Nat
  getHelper : List UInt8 → Except HelperStuck (Option HelperKind)
  checked : ∀ bytes, bytesRequired ≤ bytes.length → ∃ helper, getHelper bytes = .ok helper

namespace PeekingCallback

def helperFor (p : PeekingCallback) : PeekCallback := fun bytes =>
  match p.getHelper bytes with
  | .ok helper => helper
  | .error _ => none

end PeekingCallback

namespace TLSPlaintextPeekingCallback

abbrev kPeekCount := 9

def looksLikeTLS (bytes : List UInt8) : Except HelperStuck Bool :=
  if bytes.length ≥ kPeekCount then
    if bytes[0]? ≠ some 0x16 ∨ bytes[1]? ≠ some 0x03 ∨ bytes[5]? ≠ some 0x01 then .ok false else .ok true
  else .error .checkFailed

def getHelper (bytes : List UInt8) : Except HelperStuck (Option HelperKind) :=
  match looksLikeTLS bytes with
  | .error stuck => .error stuck
  | .ok looksLikeTLS => .ok (if !looksLikeTLS then some .unencrypted else none)

end TLSPlaintextPeekingCallback

structure SecurityProtocolContextManager where
  peekingCallbacks : List PeekingCallback := []
  numBytes : Nat := 0

namespace SecurityProtocolContextManager

def addPeeker (m : SecurityProtocolContextManager) (peekingCallback : PeekingCallback) : SecurityProtocolContextManager where
  numBytes := if peekingCallback.bytesRequired > m.numBytes then peekingCallback.bytesRequired else m.numBytes
  peekingCallbacks := m.peekingCallbacks ++ [peekingCallback]

def addPeekers (peekingCallbacks : List PeekingCallback) : SecurityProtocolContextManager :=
  peekingCallbacks.foldl addPeeker {}

/-- The helper that the handshake manager creates. -/
def getHandshakeManager (m : SecurityProtocolContextManager) : PeekingAcceptorHandshakeHelper where
  peekCallbacks := m.peekingCallbacks.map PeekingCallback.helperFor
  numBytes := m.numBytes

end SecurityProtocolContextManager

inductive PeekOutcome
  | connectionError (ex : HandshakeException)
  -- the helper is started on a socket from which it will read these bytes
  | started (helper : HelperKind) (stream : List UInt8)
  deriving DecidableEq, Repr

structure PeekedConnection where
  peekingCallbacks : List PeekingCallback
  helper : PeekingAcceptorHandshakeHelper
  unread : List UInt8
  consulted : List (List UInt8) := []
  outcomes : List PeekOutcome := []

inductive PeekOp
  -- the socket reads so many bytes
  | read (len : Nat)
  | eof
  | error (what : String)
  | dropConnection (reason : SSLErrorEnum)
  deriving DecidableEq, Repr

namespace PeekedConnection

def consult (bytes : List UInt8) : List PeekingCallback → Except HelperStuck (List (List UInt8) × Option HelperKind)
  | [] => .ok ([], none)
  | p :: ps => match p.getHelper bytes with
      | .error stuck => .error stuck
      | .ok (some helper) => .ok ([bytes], some helper)
      | .ok none => match consult bytes ps with
          | .error stuck => .error stuck
          | .ok (consulted, helper) => .ok (bytes :: consulted, helper)

def errorOf : Option Report → List PeekOutcome
  | some (.connectionError ex _) => [.connectionError ex]
  | _ => []

/-- Pre-received data is read before anything else. -/
def outcomesOf (helper : Option HelperKind) (sock : Option AsyncSSLSocket) (unread : List UInt8) (report : Option Report) :
    List PeekOutcome :=
  match helper, sock with
  | some helper, some sock => [.started helper (sock.preReceivedData ++ unread)]
  | _, _ => errorOf report

def peekSuccess (bytes : List UInt8) (p : PeekingAcceptorHandshakeHelper) (x : PeekedConnection) :
    Except HelperStuck PeekedConnection :=
  match consult bytes x.peekingCallbacks with
  | .error stuck => .error stuck
  | .ok (consulted, helper) => match p.peekSuccess bytes with
      | .error stuck => .error stuck
      | .ok (p', report) => .ok { x with
          helper := p'
          consulted := x.consulted ++ consulted
          outcomes := x.outcomes ++ outcomesOf helper p.socket x.unread report }

def start (sock : AsyncSSLSocket) (x : PeekedConnection) : Except HelperStuck PeekedConnection :=
  if sock.sslState = .unencrypted then
    let peeker := { peekBytes := List.replicate x.helper.numBytes 0 }
    if x.helper.numBytes = 0 then
      x.peekSuccess [] { x.helper with
        socket := some sock, callback := true, peeker := some { peeker with callback := false } }
    else
      .ok { x with helper := { x.helper with
        socket := some { sock with readCallback := true }, callback := true, peeker := some peeker } }
  else .error .checkFailed

def readDataAvailable (sock : AsyncSSLSocket) (peeker : SocketPeeker) (x : PeekedConnection) :
    Except HelperStuck PeekedConnection :=
  if peeker.peekBytes.length < peeker.read then .error .checkFailed
  else if peeker.read = peeker.peekBytes.length then
    let sock := { sock with preReceivedData := peeker.peekBytes, readCallback := false }
    if peeker.callback then
      x.peekSuccess peeker.peekBytes
        { x.helper with socket := some sock, peeker := some { peeker with callback := false } }
    else .error .undefined
  else .ok { x with helper := { x.helper with peeker := some peeker } }

/-- The socket reads at least one byte, and not more than fits into the buffer. -/
def read (len : Nat) (x : PeekedConnection) : Except HelperStuck PeekedConnection :=
  match x.helper.socket, x.helper.peeker with
  | some sock, some peeker =>
      if sock.readCallback ∧ 0 < len ∧ len ≤ x.unread.length then
        match peeker.getReadBuffer with
        | .error stuck => .error stuck
        | .ok size =>
            if len ≤ size then
              readDataAvailable sock (peeker.fill (x.unread.take len)) { x with unread := x.unread.drop len }
            else .error .ignored
      else .error .ignored
  | _, _ => .error .ignored

def told (x : PeekedConnection) : Reply PeekingAcceptorHandshakeHelper → Except HelperStuck PeekedConnection
  | .error stuck => .error stuck
  | .ok (p, report) => .ok { x with helper := p, outcomes := x.outcomes ++ errorOf report }

/-- A helper that has been started is dropped instead. -/
def dropConnection (reason : SSLErrorEnum) (x : PeekedConnection) : Except HelperStuck PeekedConnection :=
  if x.helper.helper.isSome then .error .ignored else x.told (x.helper.dropConnection reason)

def step (x : PeekedConnection) : PeekOp → Except HelperStuck PeekedConnection
  | .read len => x.read len
  | .eof => x.told (x.helper.event .eof)
  | .error what => x.told (x.helper.event (.error what))
  | .dropConnection reason => x.dropConnection reason

abbrev run (x : PeekedConnection) (ops : List PeekOp) : Except HelperStuck PeekedConnection :=
  Transition.run step x ops

def accept (peekingCallbacks : List PeekingCallback) (sock : AsyncSSLSocket) (stream : List UInt8) :
    Except HelperStuck PeekedConnection :=
  let m := SecurityProtocolContextManager.addPeekers peekingCallbacks
  start sock { peekingCallbacks := m.peekingCallbacks, helper := m.getHandshakeManager, unread := stream }

end PeekedConnection
end Wangle.Acceptor
