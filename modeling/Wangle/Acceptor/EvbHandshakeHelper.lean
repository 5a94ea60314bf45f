import Wangle.Acceptor.HandshakeHelper
import Wangle.Transition.Run

/-!
# `EvbHandshakeHelper`

Two threads share the helper: that of `originalEvb_` and that of `handshakeEvb_`. Each takes its next atomic
action when the scheduler picks it, and each runs the functions posted to its event base in the order in
which they were posted. The callback destroys the helper, which is released at once or when
`dropConnectionGuard_` is cleared.
-/

namespace Wangle.Acceptor

inductive HandshakeState
  | invalid
  | started
  | dropped
  | callback
  deriving DecidableEq, Repr

inductive EventBase
  | original
  | handshake
  deriving DecidableEq, Repr

inductive OriginalTask
  | callback (report : Report)
  | clearGuard
  deriving DecidableEq, Repr

inductive HandshakeTask
  | start
  | dropConnection (reason : SSLErrorEnum)
  deriving DecidableEq, Repr

inductive OriginalThread
  | idle
  -- `dropConnection` has tried its transition
  | dropping (won : Bool) (reason : SSLErrorEnum)
  -- `dropConnection` has called the callback
  | notified (won : Bool) (reason : SSLErrorEnum)
  deriving DecidableEq, Repr

/-- `inDrop` tells whether the report was made inside of the wrapped helper's `dropConnection`. -/
inductive HandshakeThread
  | idle
  | reporting (report : Report) (inDrop : Bool)
  | won (report : Report) (inDrop : Bool)
  | detached (report : Report) (inDrop : Bool)
  | helperDropped
  | helperReset
  deriving DecidableEq, Repr

inductive HandshakeEvent
  | dropConnection (reason : SSLErrorEnum)
  | reported (report : Report)
  | helperDropConnection
  | detachEventBase
  | guardSet
  | guardCleared
  | completed (report : Report)
  deriving DecidableEq, Repr

structure EvbHandshakeHelper (σ : Type) where
  helper : Option σ
  state : HandshakeState := .invalid
  -- `originalEvb_` is not null
  originalEvb : Bool := false
  dropConnectionGuard : Bool := false
  transportEvb : Option EventBase := some .original
  original : OriginalThread := .idle
  originalQueue : List OriginalTask := []
  handshake : HandshakeThread := .idle
  handshakeQueue : List HandshakeTask := []
  destroyed : Bool := false
  trace : List HandshakeEvent := []

namespace EvbHandshakeHelper

inductive Fault
  | checkFailed
  | helper (stuck : HelperStuck)
  -- the wrapped helper is used after it was reset
  | noHelper
  -- a released object is used
  | released
  | notEnabled
  deriving DecidableEq, Repr

variable {σ ε : Type}

def record (event : HandshakeEvent) (s : EvbHandshakeHelper σ) : EvbHandshakeHelper σ :=
  { s with trace := s.trace ++ [event] }

def tryTransition (expected next : HandshakeState) (s : EvbHandshakeHelper σ) : Bool × EvbHandshakeHelper σ :=
  if s.state = expected then (true, { s with state := next }) else (false, s)

def released (s : EvbHandshakeHelper σ) : Bool := s.destroyed && !s.dropConnectionGuard

def release (s : EvbHandshakeHelper σ) : EvbHandshakeHelper σ :=
  if s.released then { s with helper := none } else s

def complete (report : Report) (s : EvbHandshakeHelper σ) : EvbHandshakeHelper σ :=
  release { s.record (.completed report) with destroyed := true }

def setGuard (s : EvbHandshakeHelper σ) : EvbHandshakeHelper σ :=
  { s.record .guardSet with dropConnectionGuard := true }

def clearGuard (s : EvbHandshakeHelper σ) : EvbHandshakeHelper σ :=
  release { s.record .guardCleared with dropConnectionGuard := false }

def start (s : EvbHandshakeHelper σ) : EvbHandshakeHelper σ :=
  -- a transition that fails is only logged
  let s := (s.tryTransition .invalid .started).2
  { s with
    originalEvb := true
    transportEvb := none
    handshakeQueue := s.handshakeQueue ++ [.start] }

def dropConnection (reason : SSLErrorEnum) (s : EvbHandshakeHelper σ) : Except Fault (EvbHandshakeHelper σ) :=
  if s.originalEvb then
    let (won, s) := s.tryTransition .started .dropped
    .ok { s.record (.dropConnection reason) with original := .dropping won reason }
  else .error .checkFailed

def runOriginal (s : EvbHandshakeHelper σ) : OriginalTask → EvbHandshakeHelper σ
  | .callback report =>
      let s := { s with transportEvb := some .original }
      if s.dropConnectionGuard then s.clearGuard else s.complete report
  | .clearGuard => s.clearGuard

def stepOriginal (s : EvbHandshakeHelper σ) : Except Fault (EvbHandshakeHelper σ) :=
  match s.original with
  | .dropping won reason =>
      let s := s.setGuard.complete (.connectionError (.runtimeError "connection dropped") (some reason))
      .ok { s with original := .notified won reason }
  | .notified won reason =>
      if s.released then .error .released
      else .ok { s with
        original := .idle
        handshakeQueue := if won then s.handshakeQueue ++ [.dropConnection reason] else s.handshakeQueue }
  | .idle => match s.originalQueue with
      | [] => .error .notEnabled
      | task :: queue =>
          if s.released then .error .released else .ok (runOriginal { s with originalQueue := queue } task)

def callHelper (call : σ → Reply σ) (quiet : HandshakeThread) (inDrop : Bool) (s : EvbHandshakeHelper σ) :
    Except Fault (EvbHandshakeHelper σ) :=
  match s.helper with
  | none => .error .noHelper
  | some helper => match call helper with
      | .error stuck => .error (.helper stuck)
      | .ok (helper, none) => .ok { s with helper := some helper, handshake := quiet }
      | .ok (helper, some report) => .ok { s with helper := some helper, handshake := .reporting report inDrop }

def runHandshake (wrapped : AcceptorHandshakeHelper σ ε) (s : EvbHandshakeHelper σ) :
    HandshakeTask → Except Fault (EvbHandshakeHelper σ)
  | .start => callHelper wrapped.start .idle false { s with transportEvb := some .handshake }
  | .dropConnection reason =>
      callHelper (wrapped.dropConnection reason) .helperDropped true (s.record .helperDropConnection)

/-- Where the handshake thread goes on when `connectionReady` or `connectionError` returns. -/
def returned : Bool → HandshakeThread
  | true => .helperDropped
  | false => .idle

def stepHandshake (wrapped : AcceptorHandshakeHelper σ ε) (s : EvbHandshakeHelper σ) :
    Except Fault (EvbHandshakeHelper σ) :=
  match s.handshake with
  | .idle => match s.handshakeQueue with
      | [] => .error .notEnabled
      | task :: queue =>
          if s.released then .error .released else runHandshake wrapped { s with handshakeQueue := queue } task
  | .reporting report inDrop =>
      if s.released then .error .released
      -- the `DCHECK` on the transport's event base
      else if s.transportEvb ≠ some .handshake then .error .checkFailed
      else
        let (won, s) := (s.record (.reported report)).tryTransition .started .callback
        .ok { s with handshake := if won then .won report inDrop else returned inDrop }
  | .won report inDrop =>
      if s.released then .error .released
      else .ok { s.record .detachEventBase with transportEvb := none, handshake := .detached report inDrop }
  | .detached report inDrop =>
      if s.released then .error .released
      else .ok { s with originalQueue := s.originalQueue ++ [.callback report], handshake := returned inDrop }
  | .helperDropped =>
      if s.released then .error .released else .ok { s with helper := none, handshake := .helperReset }
  | .helperReset =>
      if s.released then .error .released
      else .ok { s with originalQueue := s.originalQueue ++ [.clearGuard], handshake := .idle }

inductive HandshakeOp (ε : Type)
  | start
  | dropConnection (reason : SSLErrorEnum)
  | original
  | handshake
  | event (e : ε)

def step (wrapped : AcceptorHandshakeHelper σ ε) (s : EvbHandshakeHelper σ) :
    HandshakeOp ε → Except Fault (EvbHandshakeHelper σ)
  | .start => if s.originalEvb then .error .notEnabled else .ok s.start
  | .dropConnection reason =>
      if s.original = .idle ∧ s.destroyed = false then s.dropConnection reason else .error .notEnabled
  | .original => s.stepOriginal
  | .handshake => s.stepHandshake wrapped
  | .event e =>
      -- the wrapped helper has been started and is still there, and its thread is free
      if s.originalEvb ∧ .start ∉ s.handshakeQueue ∧ s.handshake = .idle ∧ s.helper.isSome then
        callHelper (wrapped.event e) .idle false s
      else .error .notEnabled

abbrev run (wrapped : AcceptorHandshakeHelper σ ε) (s : EvbHandshakeHelper σ) (ops : List (HandshakeOp ε)) :
    Except Fault (EvbHandshakeHelper σ) :=
  Transition.run (step wrapped) s ops

end EvbHandshakeHelper
end Wangle.Acceptor
