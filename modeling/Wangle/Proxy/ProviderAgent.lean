import Wangle.Transition.Run

/-!
# The proxy of `ProviderAgent`

One connection of a consumer agent: the frontend pipeline with its `ProxyFrontendHandler`, and the backend
pipeline that its client bootstrap makes for the connection to dubbo. Both pipelines have an
`AsyncSocketHandler`, an `EventBaseHandler` and the handler of the proxy. A step is one event of a socket, of the
acceptor or of the executor.
-/

namespace Wangle.Proxy

inductive Side
  | frontend
  | backend
  deriving DecidableEq, Repr

/-- What is printed or logged, and nothing else. -/
inductive Report
  | connectError
  -- the event has reached the end of the pipeline
  | readEOF (side : Side)
  | readException (side : Side)
  deriving DecidableEq, Repr

inductive ProxyStuck
  | nullBackend
  -- `EventBaseHandler` finds no transport on its pipeline
  | noTransport
  -- the continuation runs after the frontend pipeline has been deleted
  | destroyed
  -- the event cannot come now
  | notCalled
  deriving DecidableEq, Repr

/-- A pipeline and its socket; `written` is what has been passed to `write`. -/
structure SocketPipeline where
  bufQueue : List UInt8 := []
  transport : Bool := false
  readCallback : Bool := false
  isOpen : Bool := true
  written : List UInt8 := []
  deriving DecidableEq, Repr

namespace SocketPipeline

def detachReadCallback (p : SocketPipeline) : SocketPipeline := { p with readCallback := false }

/-- `AsyncSocketHandler::transportActive`, up to `fireTransportActive`. -/
def transportActive (p : SocketPipeline) : SocketPipeline := { p with transport := true, readCallback := p.isOpen }

def transportInactive (p : SocketPipeline) : SocketPipeline := { p.detachReadCallback with transport := false }

def write (buf : List UInt8) (p : SocketPipeline) : Except ProxyStuck SocketPipeline :=
  if p.transport then .ok { p with written := p.written ++ buf } else .error .noTransport

def shutdown (p : SocketPipeline) : SocketPipeline := { p.detachReadCallback with isOpen := false }

def close (p : SocketPipeline) : Except ProxyStuck SocketPipeline :=
  if p.transport then .ok p.shutdown else .error .noTransport

end SocketPipeline

structure ProxyConnection where
  frontend : SocketPipeline := {}
  initialised : Bool := false
  -- the pipeline of `client_`
  backend : Option SocketPipeline := none
  -- `backendPipeline_` points to it
  backendPipeline : Bool := false
  connects : Nat := 0
  outstanding : Nat := 0
  -- the continuations that the executor has still to run: of a connect that has succeeded, or failed
  posted : List Bool := []
  reported : List Report := []
  deriving DecidableEq, Repr

namespace ProxyConnection

def report (e : Report) (s : ProxyConnection) : ProxyConnection := { s with reported := s.reported ++ [e] }

/-- `throws` says that `connect` throws. -/
def transportActive (throws : Bool) (s : ProxyConnection) : ProxyConnection :=
  let s := { s with frontend := s.frontend.transportActive }
  if s.backendPipeline then s
  else
    let s := { s with frontend := s.frontend.transportInactive, connects := s.connects + 1 }
    if throws then s.report .connectError else { s with outstanding := s.outstanding + 1 }

/-- `ServerConnection::init`, which the acceptor calls once. -/
def init (throws : Bool) (s : ProxyConnection) : Except ProxyStuck ProxyConnection :=
  if s.initialised then .error .notCalled
  else .ok ({ s with initialised := true }.transportActive throws)

def connectSuccess (s : ProxyConnection) : Except ProxyStuck ProxyConnection :=
  if s.outstanding = 0 then .error .notCalled
  else
    let s := { s with outstanding := s.outstanding - 1 }
    if s.frontend.isOpen then
      .ok { s with backend := some ({} : SocketPipeline).transportActive, posted := s.posted ++ [true] }
    else
      -- the bootstrap is destroyed, and the promise is broken
      .ok { s with posted := s.posted ++ [false] }

def connectErr (s : ProxyConnection) : Except ProxyStuck ProxyConnection :=
  if s.outstanding = 0 then .error .notCalled
  else .ok { s with outstanding := s.outstanding - 1, posted := s.posted ++ [false] }

def runPosted (s : ProxyConnection) : Except ProxyStuck ProxyConnection :=
  match s.posted with
  | [] => .error .notCalled
  | false :: posted => .ok ({ s with posted := posted }.report .connectError)
  | true :: posted =>
      if s.frontend.isOpen then .ok ({ s with posted := posted, backendPipeline := true }.transportActive false)
      else .error .destroyed

def getBackend (s : ProxyConnection) : Except ProxyStuck SocketPipeline :=
  match s.backendPipeline, s.backend with
  | true, some backend => .ok backend
  | _, _ => .error .nullBackend

def read (s : ProxyConnection) (bytes : List UInt8) : Side → Except ProxyStuck ProxyConnection
  | .frontend =>
      if s.frontend.readCallback then do
        let backend ← s.getBackend
        let backend ← backend.write (s.frontend.bufQueue ++ bytes)
        return { s with frontend := { s.frontend with bufQueue := [] }, backend := some backend }
      else .error .notCalled
  | .backend => match s.backend with
      | none => .error .notCalled
      | some backend =>
          if backend.readCallback then do
            let frontend ← s.frontend.write (backend.bufQueue ++ bytes)
            return { s with frontend := frontend, backend := some { backend with bufQueue := [] } }
          else .error .notCalled

/-- A socket drops its read callback before it calls `readEOF` or `readErr`. -/
def readEOF (s : ProxyConnection) : Side → Except ProxyStuck ProxyConnection
  | .frontend =>
      if s.frontend.readCallback then do
        let backend ← s.getBackend
        let backend ← backend.close
        let frontend ← s.frontend.detachReadCallback.close
        return { s with frontend := frontend, backend := some backend }
      else .error .notCalled
  | .backend => match s.backend with
      | none => .error .notCalled
      | some backend =>
          if backend.readCallback then
            .ok ({ s with backend := some backend.detachReadCallback }.report (.readEOF .backend))
          else .error .notCalled

def readErr (s : ProxyConnection) : Side → Except ProxyStuck ProxyConnection
  | .frontend =>
      if s.frontend.readCallback then
        .ok ({ s with frontend := s.frontend.detachReadCallback }.report (.readException .frontend))
      else .error .notCalled
  | .backend => match s.backend with
      | none => .error .notCalled
      | some backend =>
          if backend.readCallback then
            .ok ({ s with backend := some backend.detachReadCallback }.report (.readException .backend))
          else .error .notCalled

/-- `timeoutExpired` and `dropConnection` of the `ServerConnection`, until the pipeline is deleted. -/
def readException (s : ProxyConnection) : Except ProxyStuck ProxyConnection :=
  if s.initialised && s.frontend.isOpen then .ok (s.report (.readException .frontend)) else .error .notCalled

inductive Op
  | init (throws : Bool)
  | connectSuccess
  | connectErr
  | runPosted
  | read (side : Side) (bytes : List UInt8)
  | readEOF (side : Side)
  | readErr (side : Side)
  | timeoutExpired
  | dropConnection
  deriving DecidableEq, Repr

def step (s : ProxyConnection) : Op → Except ProxyStuck ProxyConnection
  | .init throws => s.init throws
  | .connectSuccess => s.connectSuccess
  | .connectErr => s.connectErr
  | .runPosted => s.runPosted
  | .read side bytes => s.read bytes side
  | .readEOF side => s.readEOF side
  | .readErr side => s.readErr side
  | .timeoutExpired => s.readException
  | .dropConnection => s.readException

abbrev run (s : ProxyConnection) (ops : List Op) : Except ProxyStuck ProxyConnection := Transition.run step s ops

end ProxyConnection
end Wangle.Proxy
