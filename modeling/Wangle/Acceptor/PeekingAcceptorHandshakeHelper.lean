import Wangle.Acceptor.HandshakeHelper

/-!
# `PeekingAcceptorHandshakeHelper` and the helpers that it chooses from
-/

namespace Wangle.Acceptor

inductive SSLState
  | unencrypted
  | accepting
  deriving DecidableEq, Repr

inductive HandshakeResult
  | success (nextProto : Option String)
  | failure
  deriving DecidableEq, Repr

structure AsyncSSLSocket where
  sslState : SSLState := .unencrypted
  -- a read callback is set
  readCallback : Bool := false
  preReceivedData : List UInt8 := []
  -- what `sslAccept` reports before it returns, if it does
  accepts : Option HandshakeResult := none
  deriving DecidableEq, Repr

structure SSLAcceptorHandshakeHelper where
  socket : Option AsyncSSLSocket
  sslError : SSLErrorEnum := .noError
  -- the socket will call the handshake callback
  accepting : Bool := true
  deriving DecidableEq, Repr

namespace SSLAcceptorHandshakeHelper

def handshakeSuc (nextProto : Option String) (h : SSLAcceptorHandshakeHelper) :
    SSLAcceptorHandshakeHelper × Report :=
  ({ h with socket := none, accepting := false }, .connectionReady (nextProto.getD "") .tls (some .noError))

def handshakeErr (h : SSLAcceptorHandshakeHelper) : SSLAcceptorHandshakeHelper × Report :=
  ({ h with accepting := false }, .connectionError (.ssl h.sslError) (some h.sslError))

def handshake (result : HandshakeResult) (h : SSLAcceptorHandshakeHelper) : SSLAcceptorHandshakeHelper × Report :=
  match result with
  | .success nextProto => h.handshakeSuc nextProto
  | .failure => h.handshakeErr

def start (sock : AsyncSSLSocket) : SSLAcceptorHandshakeHelper × Option Report :=
  let h := { socket := some { sock with sslState := .accepting } }
  match sock.accepts with
  | none => (h, none)
  | some result => Prod.map id some (h.handshake result)

def dropConnection (reason : SSLErrorEnum) (h : SSLAcceptorHandshakeHelper) :
    SSLAcceptorHandshakeHelper × Option Report :=
  let h := { h with sslError := reason }
  -- `closeNow` fails a handshake that is under way
  if h.socket.isSome && h.accepting then Prod.map id some h.handshakeErr else (h, none)

end SSLAcceptorHandshakeHelper

inductive HelperKind
  | ssl
  | unencrypted
  deriving DecidableEq, Repr

inductive ChosenHelper
  | ssl (helper : SSLAcceptorHandshakeHelper)
  | unencrypted
  deriving DecidableEq, Repr

namespace ChosenHelper

def start (sock : AsyncSSLSocket) : HelperKind → ChosenHelper × Option Report
  | .ssl => Prod.map .ssl id (SSLAcceptorHandshakeHelper.start sock)
  | .unencrypted => (.unencrypted, some (.connectionReady "" .none none))

def dropConnection (reason : SSLErrorEnum) : ChosenHelper → Reply ChosenHelper
  | .ssl helper => .ok (Prod.map .ssl id (helper.dropConnection reason))
  -- `CHECK(false) << "Nothing to drop"`
  | .unencrypted => .error .checkFailed

end ChosenHelper

structure SocketPeeker where
  -- `callback_` is not null
  callback : Bool := true
  read : Nat := 0
  peekBytes : List UInt8
  deriving DecidableEq, Repr

namespace SocketPeeker

def getReadBuffer (peeker : SocketPeeker) : Except HelperStuck Nat :=
  if peeker.read < peeker.peekBytes.length then .ok (peeker.peekBytes.length - peeker.read)
  else .error .checkFailed

/-- The socket has copied `bytes` to the buffer that it was given. -/
def fill (bytes : List UInt8) (peeker : SocketPeeker) : SocketPeeker :=
  { peeker with
    read := peeker.read + bytes.length
    peekBytes := peeker.peekBytes.take peeker.read ++ bytes ++ peeker.peekBytes.drop (peeker.read + bytes.length) }

end SocketPeeker

abbrev PeekCallback := List UInt8 → Option HelperKind

structure PeekingAcceptorHandshakeHelper where
  peekCallbacks : List PeekCallback
  numBytes : Nat
  socket : Option AsyncSSLSocket := none
  helper : Option ChosenHelper := none
  peeker : Option SocketPeeker := none
  -- `callback_` is set and not null
  callback : Bool := false

inductive PeekEvent
  | data (bytes : List UInt8)
  | eof
  | error (what : String)
  | handshake (result : HandshakeResult)
  deriving DecidableEq, Repr

namespace PeekingAcceptorHandshakeHelper

def peekError (ex : HandshakeException) (p : PeekingAcceptorHandshakeHelper) :
    Reply PeekingAcceptorHandshakeHelper :=
  if p.callback then .ok ({ p with peeker := none, callback := false }, some (.connectionError ex none))
  else .error .undefined

def peekSuccess (bytes : List UInt8) (p : PeekingAcceptorHandshakeHelper) : Reply PeekingAcceptorHandshakeHelper :=
  let p := { p with peeker := none }
  match p.peekCallbacks.findSome? (· bytes), p.socket with
  | none, _ => p.peekError (.asyncSocket .corruptedData "Unrecognized protocol")
  | some _, none => .error .undefined
  | some kind, some sock =>
      -- the socket is moved, so that the `CHECK` after the call holds
      let (helper, report) := ChosenHelper.start sock kind
      if p.callback then .ok ({ p with callback := false, socket := none, helper := some helper }, report)
      else .error .undefined

def start (sock : AsyncSSLSocket) (p : PeekingAcceptorHandshakeHelper) : Reply PeekingAcceptorHandshakeHelper :=
  if sock.sslState = .unencrypted then
    let peeker := { peekBytes := List.replicate p.numBytes 0 }
    if p.numBytes = 0 then
      peekSuccess [] { p with socket := some sock, callback := true, peeker := some { peeker with callback := false } }
    else
      .ok ({ p with socket := some { sock with readCallback := true }, callback := true, peeker := some peeker }, none)
  else .error .checkFailed

def readErr (ex : HandshakeException) (sock : AsyncSSLSocket) (peeker : SocketPeeker)
    (p : PeekingAcceptorHandshakeHelper) : Reply PeekingAcceptorHandshakeHelper :=
  let p := { p with socket := some { sock with readCallback := false }, peeker := some { peeker with callback := false } }
  if peeker.callback then p.peekError ex else .ok (p, none)

def readEOF (sock : AsyncSSLSocket) (peeker : SocketPeeker) (p : PeekingAcceptorHandshakeHelper) :
    Reply PeekingAcceptorHandshakeHelper :=
  p.readErr (.asyncSocket .endOfFile "Unexpected EOF") sock peeker

def readDataAvailable (sock : AsyncSSLSocket) (peeker : SocketPeeker) (p : PeekingAcceptorHandshakeHelper) :
    Reply PeekingAcceptorHandshakeHelper :=
  if peeker.peekBytes.length < peeker.read then .error .checkFailed
  else if peeker.read = peeker.peekBytes.length then
    let sock := { sock with preReceivedData := peeker.peekBytes, readCallback := false }
    if peeker.callback then
      peekSuccess peeker.peekBytes { p with socket := some sock, peeker := some { peeker with callback := false } }
    else .error .undefined
  else .ok ({ p with peeker := some peeker }, none)

/-- The socket reads for the peeker: not more than fits into the buffer. -/
def handleRead (bytes : List UInt8) (sock : AsyncSSLSocket) (peeker : SocketPeeker)
    (p : PeekingAcceptorHandshakeHelper) : Reply PeekingAcceptorHandshakeHelper :=
  match peeker.getReadBuffer with
  | .error stuck => .error stuck
  | .ok len => p.readDataAvailable sock (peeker.fill (bytes.take len))

def dropConnection (reason : SSLErrorEnum) (p : PeekingAcceptorHandshakeHelper) :
    Reply PeekingAcceptorHandshakeHelper :=
  match p.socket, p.helper with
  -- `CHECK_NE(socket_.get() == nullptr, helper_.get() == nullptr)`
  | none, none => .error .checkFailed
  | some _, some _ => .error .checkFailed
  -- `closeNow` tells the read callback that there is nothing more to read
  | some sock, none => match sock.readCallback, p.peeker with
      | false, _ => .ok (p, none)
      | true, none => .error .undefined
      | true, some peeker => p.readEOF sock peeker
  | none, some helper => match helper.dropConnection reason with
      | .error stuck => .error stuck
      | .ok (helper, report) => .ok ({ p with helper := some helper }, report)

def event (e : PeekEvent) (p : PeekingAcceptorHandshakeHelper) : Reply PeekingAcceptorHandshakeHelper :=
  match e with
  | .handshake result => match p.helper with
      | some (.ssl helper) =>
          if helper.accepting then
            let (helper, report) := helper.handshake result
            .ok ({ p with helper := some (.ssl helper) }, some report)
          else .error .ignored
      | _ => .error .ignored
  | .data bytes => match p.socket, p.peeker with
      | some sock, some peeker =>
          if sock.readCallback && !bytes.isEmpty then p.handleRead bytes sock peeker else .error .ignored
      | _, _ => .error .ignored
  | .eof => match p.socket, p.peeker with
      | some sock, some peeker => if sock.readCallback then p.readEOF sock peeker else .error .ignored
      | _, _ => .error .ignored
  | .error what => match p.socket, p.peeker with
      | some sock, some peeker =>
          if sock.readCallback then p.readErr (.asyncSocket .other what) sock peeker else .error .ignored
      | _, _ => .error .ignored

end PeekingAcceptorHandshakeHelper
end Wangle.Acceptor
