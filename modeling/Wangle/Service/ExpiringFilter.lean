import Wangle.Transition.Run

/-!
# `ExpiringFilter`

Requests are numbered from 0. A request is in `calling` while the wrapped service is being called for it, the
innermost call first, and in `outstanding` from the return of its future until that is completed. Cancelling a
sleep takes effect at once.
-/

namespace Wangle.Service

namespace ExpiringFilter

/-- The future of a sleep. A future that is default-constructed is ready. -/
inductive Timeout
  | ready
  | pending
  deriving DecidableEq, Repr

inductive Outcome
  | later
  | completed (success : Bool)
  | threw
  deriving DecidableEq, Repr

inductive Closer
  | idleTimer
  | maxTimer
  | caller
  deriving DecidableEq, Repr

inductive Stuck
  | notCalling
  | notOutstanding
  | notPending
  deriving DecidableEq, Repr

end ExpiringFilter

open ExpiringFilter in
structure ExpiringFilter where
  idleTimeoutTime : Int
  maxTime : Int
  idleTimeout : Timeout := .ready
  maxTimeout : Timeout := .ready
  requests : UInt32 := 0
  -- sleeps that are still pending although `idleTimeout_` has been replaced
  abandoned : Nat := 0
  issued : Nat := 0
  calling : List Nat := []
  outstanding : List Nat := []
  -- the calls of `close` of the wrapped service, each with the number of requests that were active
  closed : List (Closer × Nat) := []

namespace ExpiringFilter

def active (s : ExpiringFilter) : Nat := s.outstanding.length + s.calling.length

def close (closer : Closer) (s : ExpiringFilter) : ExpiringFilter :=
  { s with closed := s.closed ++ [(closer, s.active)] }

def startIdleTimer (s : ExpiringFilter) : ExpiringFilter :=
  if s.requests ≠ 0 then s
  else if 0 < s.idleTimeoutTime then
    { s with idleTimeout := .pending, abandoned := s.abandoned + if s.idleTimeout = .pending then 1 else 0 }
  else s

def new (idleTimeoutTime maxTime : Int) : ExpiringFilter :=
  startIdleTimer { idleTimeoutTime, maxTime, maxTimeout := if 0 < maxTime then .pending else .ready }

/-- `operator()` up to the call of the wrapped service. -/
def call (s : ExpiringFilter) : ExpiringFilter :=
  { s with
    -- cancelled if it was pending
    idleTimeout := .ready
    requests := s.requests + 1
    issued := s.issued + 1
    calling := s.issued :: s.calling }

/-- The function that `operator()` gives to `ensure`. -/
def ensured (s : ExpiringFilter) : ExpiringFilter :=
  startIdleTimer { s with requests := s.requests - 1 }

def answered (outcome : Outcome) (s : ExpiringFilter) : Except Stuck ExpiringFilter :=
  match s.calling with
  | [] => .error .notCalling
  | i :: calling => match outcome with
      | .later => .ok { s with calling := calling, outstanding := i :: s.outstanding }
      | .completed _ => .ok (ensured { s with calling := calling })
      -- there is no future for `ensure`
      | .threw => .ok { s with calling := calling }

inductive Op
  | request
  | answered (outcome : Outcome)
  | finish (i : Nat) (success : Bool)
  | idleExpired
  | abandonedExpired
  | maxExpired
  | close
  deriving DecidableEq, Repr

def step (s : ExpiringFilter) : Op → Except Stuck ExpiringFilter
  | .request => .ok s.call
  | .answered outcome => s.answered outcome
  | .finish i _ =>
      if i ∈ s.outstanding then .ok (ensured { s with outstanding := s.outstanding.erase i })
      else .error .notOutstanding
  | .idleExpired =>
      if s.idleTimeout = .pending then .ok (close .idleTimer { s with idleTimeout := .ready })
      else .error .notPending
  | .abandonedExpired =>
      if 0 < s.abandoned then .ok (close .idleTimer { s with abandoned := s.abandoned - 1 })
      else .error .notPending
  | .maxExpired =>
      if s.maxTimeout = .pending then .ok (close .maxTimer { s with maxTimeout := .ready })
      else .error .notPending
  | .close => .ok (s.close .caller)

abbrev run (s : ExpiringFilter) (ops : List Op) : Except Stuck ExpiringFilter :=
  Transition.run step s ops

end ExpiringFilter
end Wangle.Service
