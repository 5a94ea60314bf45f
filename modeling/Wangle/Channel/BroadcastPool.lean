import Wangle.Transition.Run
import Mathlib.Logic.Function.Basic

/-!
# `BroadcastPool`

A pool with all managers that it has ever made. The continuation of a connect calls out of the pool in
`setRoutingData` and in the continuations of the futures that it completes, and any other event can come before such
a call returns; `stack` has the managers whose continuation is under way, the innermost one first. The futures are
numbered, and each caller attaches its continuation when `getHandler` has returned.
-/

namespace Wangle.Channel

inductive Outcome
  | handler
  -- the exception of the connect
  | connectError
  -- the exception of `setRoutingData`
  | routingError
  -- the pipeline has been deleted in `setRoutingData`
  | upstreamError
  -- the promise has been destroyed
  | broken
  deriving DecidableEq, Repr

/-- `caller` is the future of a call of `getHandler` in which the connect has completed, and which has not returned. -/
inductive ManagerStage
  | connecting
  | settingRoutingData (caller : Option Nat)
  -- `guarded` says that a `DestructorGuard` is held
  | completing (outcome : Outcome) (futures : List Nat) (guarded : Bool) (caller : Option Nat)
  | completed (outcome : Outcome)
  deriving DecidableEq, Repr

namespace ManagerStage

def outcome? : ManagerStage → Option Outcome
  | .completing outcome _ _ _ => some outcome
  | .completed outcome => some outcome
  | _ => none

def isActive : ManagerStage → Bool
  | .settingRoutingData _ => true
  | .completing .. => true
  | _ => false

def isGuarded : ManagerStage → Bool
  | .settingRoutingData _ => true
  | .completing _ _ guarded _ => guarded
  | _ => false

def isRouting : ManagerStage → Bool
  | .settingRoutingData _ => true
  | _ => false

end ManagerStage

/-- The manager with its pipeline and its broadcast handler: `deletingBroadcast` is set when the pipeline is closed. -/
structure BroadcastManager (R : Type) where
  routingData : R
  stage : ManagerStage := .connecting
  sharedPromise : List Nat := []
  deletingBroadcast : Bool := false
  subscribers : Nat := 0
  destroyed : Bool := false
  deriving DecidableEq, Repr

structure Completion where
  future : Nat
  manager : Nat
  outcome : Outcome
  closed : Bool
  deriving DecidableEq, Repr

structure BroadcastPool (R : Type) where
  managers : Nat → Option (BroadcastManager R) := fun _ => none
  nextManager : Nat := 0
  broadcasts : R → Option Nat := fun _ => none
  isDestroyed : Bool := false
  stack : List Nat := []
  -- the manager from which each future comes
  futures : List Nat := []
  completions : List Completion := []
  -- which manager has removed which
  erasures : List (Nat × Nat) := []

inductive PoolFault
  -- the continuation of a connect uses a manager that has been destroyed
  | destroyed
  -- the event cannot come now
  | notCalled
  deriving DecidableEq, Repr

namespace BroadcastPool
variable {R : Type}

def setManager (m : Nat) (manager : BroadcastManager R) (s : BroadcastPool R) : BroadcastPool R :=
  { s with managers := Function.update s.managers m (some manager) }

def complete (future m : Nat) (outcome : Outcome) (s : BroadcastPool R) : BroadcastPool R :=
  { s with completions := s.completions ++ [⟨future, m, outcome, (s.managers m).any (·.deletingBroadcast)⟩] }

def broken (m : Nat) (manager : BroadcastManager R) : List Completion :=
  manager.sharedPromise.map fun future => ⟨future, m, .broken, manager.deletingBroadcast⟩

def destroyManager (m : Nat) (manager : BroadcastManager R) (s : BroadcastPool R) : BroadcastPool R :=
  { s.setManager m { manager with destroyed := true, sharedPromise := [] } with
    completions := s.completions ++ broken m manager }

variable [DecidableEq R]

def deleteBroadcast (m : Nat) (routingData : R) (s : BroadcastPool R) : BroadcastPool R :=
  match s.broadcasts routingData with
  | none => s
  | some victim =>
      let s := { s with
        broadcasts := Function.update s.broadcasts routingData none
        erasures := s.erasures ++ [(m, victim)] }
      match s.managers victim with
      | none => s
      | some manager => if manager.stage.isGuarded then s else s.destroyManager victim manager

def handleConnectError (m : Nat) (manager : BroadcastManager R) (outcome : Outcome) (guarded : Bool) (caller : Option Nat)
    (s : BroadcastPool R) : BroadcastPool R :=
  let stage := .completing outcome manager.sharedPromise guarded caller
  (s.setManager m { manager with stage := stage, sharedPromise := [] }).deleteBroadcast m manager.routingData

def deletePipeline (m : Nat) (manager : BroadcastManager R) (s : BroadcastPool R) : BroadcastPool R :=
  if manager.deletingBroadcast then s
  else (s.setManager m { manager with deletingBroadcast := true }).deleteBroadcast m manager.routingData

def closeIfIdle (m : Nat) (manager : BroadcastManager R) (s : BroadcastPool R) : BroadcastPool R :=
  if manager.subscribers = 0 then s.deletePipeline m manager else s

/-- `connect` is the result of a connect that is complete when it returns. -/
def getHandler (routingData : R) (connect : Option Bool) (s : BroadcastPool R) : Except PoolFault (BroadcastPool R) :=
  if s.isDestroyed then .error .notCalled
  else
    let future := s.futures.length
    match s.broadcasts routingData with
    | some m => match s.managers m with
        | none => .error .notCalled
        | some manager =>
            let s := { s with futures := s.futures ++ [m] }
            match manager.stage.outcome? with
            | some outcome => .ok (s.complete future m outcome)
            | none => .ok (s.setManager m { manager with sharedPromise := manager.sharedPromise ++ [future] })
    | none =>
        let m := s.nextManager
        let manager : BroadcastManager R := { routingData := routingData }
        let s := { s with
          nextManager := m + 1
          futures := s.futures ++ [m]
          broadcasts := Function.update s.broadcasts routingData (some m) }
        match connect with
        | none => .ok (s.setManager m { manager with sharedPromise := [future] })
        | some true =>
            .ok ({ s with stack := m :: s.stack }.setManager m { manager with stage := .settingRoutingData (some future) })
        | some false =>
            .ok ({ s with stack := m :: s.stack }.handleConnectError m manager .connectError false (some future))

/-- The connect of manager `m` completes. If the bootstrap is destroyed its promise is broken, which is an error. -/
def connectCompletes (m : Nat) (success : Bool) (s : BroadcastPool R) : Except PoolFault (BroadcastPool R) :=
  match s.managers m with
  | none => .error .notCalled
  | some manager =>
      if manager.stage ≠ .connecting then .error .notCalled
      else if manager.destroyed then .error .destroyed
      else
        let s := { s with stack := m :: s.stack }
        if success then .ok (s.setManager m { manager with stage := .settingRoutingData none })
        else .ok (s.handleConnectError m manager .connectError false none)

def setRoutingDataReturns (throws : Bool) (s : BroadcastPool R) : Except PoolFault (BroadcastPool R) :=
  match s.stack with
  | [] => .error .notCalled
  | m :: _ => match s.managers m with
      | none => .error .notCalled
      | some manager => match manager.stage with
          | .settingRoutingData caller =>
              if throws then .ok (s.handleConnectError m manager .routingError true caller)
              else if manager.deletingBroadcast then .ok (s.handleConnectError m manager .upstreamError true caller)
              else
                let stage := .completing .handler manager.sharedPromise true caller
                .ok (s.setManager m { manager with stage := stage, sharedPromise := [] })
          | _ => .error .notCalled

def finish (m : Nat) (outcome : Outcome) (guarded : Bool) (caller : Option Nat) (s : BroadcastPool R) : BroadcastPool R :=
  match s.managers m with
  | none => s
  | some manager =>
      let released := guarded && s.broadcasts manager.routingData ≠ some m
      let s := s.setManager m { manager with stage := .completed outcome, destroyed := manager.destroyed || released }
      match caller with
      | none => s
      | some future => s.complete future m outcome

def proceed (s : BroadcastPool R) : Except PoolFault (BroadcastPool R) :=
  match s.stack with
  | [] => .error .notCalled
  | m :: stack => match s.managers m with
      | none => .error .notCalled
      | some manager => match manager.stage with
          | .completing outcome (future :: futures) guarded caller =>
              let stage := .completing outcome futures guarded caller
              .ok ((s.complete future m outcome).setManager m { manager with stage := stage })
          | .completing outcome [] guarded caller =>
              let s := if outcome = .handler then s.closeIfIdle m manager else s
              .ok ({ s with stack := stack }.finish m outcome guarded caller)
          | _ => .error .notCalled

/-- There is no handler before the connect has completed. -/
def subscribe (m : Nat) (s : BroadcastPool R) : Except PoolFault (BroadcastPool R) :=
  match s.managers m with
  | none => .error .notCalled
  | some manager =>
      if manager.stage = .connecting ∨ manager.destroyed then .error .notCalled
      else .ok (s.setManager m { manager with subscribers := manager.subscribers + 1 })

def unsubscribe (m : Nat) (s : BroadcastPool R) : Except PoolFault (BroadcastPool R) :=
  match s.managers m with
  | none => .error .notCalled
  | some manager =>
      if manager.stage = .connecting ∨ manager.destroyed ∨ manager.subscribers = 0 then .error .notCalled
      else
        let manager := { manager with subscribers := manager.subscribers - 1 }
        .ok ((s.setManager m manager).closeIfIdle m manager)

/-- The upstream connection ends, which ends all subscriptions. -/
def upstreamCloses (m : Nat) (s : BroadcastPool R) : Except PoolFault (BroadcastPool R) :=
  match s.managers m with
  | none => .error .notCalled
  | some manager =>
      if manager.stage = .connecting ∨ manager.destroyed ∨ manager.deletingBroadcast then .error .notCalled
      else
        let manager := { manager with subscribers := 0 }
        .ok ((s.setManager m manager).deletePipeline m manager)

def isPooled (s : BroadcastPool R) (m : Nat) (manager : BroadcastManager R) : Bool :=
  s.broadcasts manager.routingData = some m

def destroyPool (s : BroadcastPool R) : Except PoolFault (BroadcastPool R) :=
  if s.isDestroyed ∨ s.stack ≠ [] then .error .notCalled
  else
    let dropped := (List.range s.nextManager).flatMap fun m =>
      ((s.managers m).filter (s.isPooled m)).elim [] (broken m)
    .ok { s with
      managers := fun m => (s.managers m).map fun manager =>
        if s.isPooled m manager then { manager with destroyed := true, sharedPromise := [] } else manager
      broadcasts := fun _ => none
      isDestroyed := true
      completions := s.completions ++ dropped }

inductive Op (R : Type)
  | getHandler (routingData : R) (connect : Option Bool)
  | connectCompletes (m : Nat) (success : Bool)
  | setRoutingDataReturns (throws : Bool)
  | proceed
  | subscribe (m : Nat)
  | unsubscribe (m : Nat)
  | upstreamCloses (m : Nat)
  | destroyPool
  deriving DecidableEq, Repr

def step (s : BroadcastPool R) : Op R → Except PoolFault (BroadcastPool R)
  | .getHandler routingData connect => s.getHandler routingData connect
  | .connectCompletes m success => s.connectCompletes m success
  | .setRoutingDataReturns throws => s.setRoutingDataReturns throws
  | .proceed => s.proceed
  | .subscribe m => s.subscribe m
  | .unsubscribe m => s.unsubscribe m
  | .upstreamCloses m => s.upstreamCloses m
  | .destroyPool => s.destroyPool

abbrev run (s : BroadcastPool R) (ops : List (Op R)) : Except PoolFault (BroadcastPool R) := Transition.run step s ops

end BroadcastPool
end Wangle.Channel
