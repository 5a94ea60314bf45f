import Mathlib.Init

/-!
# `AcceptorHandshakeHelper`

A helper is described by what its calls do to it and by what they have told its callback before they
return.
-/

namespace Wangle.Acceptor

inductive SSLErrorEnum
  | noError
  | timeout
  | dropped
  deriving DecidableEq, Repr

inductive SecureTransportType
  | none
  | tls
  | zero
  deriving DecidableEq, Repr

inductive AsyncSocketExceptionType
  | endOfFile
  | corruptedData
  | other
  deriving DecidableEq, Repr

/-- The exceptions that a `folly::exception_wrapper` carries here, without the times and the byte counts. -/
inductive HandshakeException
  | runtimeError (what : String)
  | asyncSocket (type : AsyncSocketExceptionType) (what : String)
  | ssl (error : SSLErrorEnum)
  deriving DecidableEq, Repr

inductive Report
  | connectionReady (nextProtocol : String) (secureTransportType : SecureTransportType)
      (sslErr : Option SSLErrorEnum)
  | connectionError (ex : HandshakeException) (sslErr : Option SSLErrorEnum)
  deriving DecidableEq, Repr

inductive HelperStuck
  | checkFailed
  -- a null pointer is used
  | undefined
  -- the helper does not wait for this event
  | ignored
  deriving DecidableEq, Repr

abbrev Reply (σ : Type) := Except HelperStuck (σ × Option Report)

/-- The call reports only what has not been reported before. -/
def ReportsOnce {σ : Type} (reported : σ → Bool) (call : σ → Reply σ) : Prop :=
  ∀ s s' report, call s = .ok (s', report) →
    reported s' = (reported s || report.isSome) ∧ (reported s = true → report = none)

structure AcceptorHandshakeHelper (σ ε : Type) where
  start : σ → Reply σ
  dropConnection : SSLErrorEnum → σ → Reply σ
  -- what the event base delivers to the helper and to what it has built
  event : ε → σ → Reply σ
  reported : σ → Bool
  start_reportsOnce : ReportsOnce reported start
  dropConnection_reportsOnce : ∀ reason, ReportsOnce reported (dropConnection reason)
  event_reportsOnce : ∀ e, ReportsOnce reported (event e)

end Wangle.Acceptor
