import Wangle.Proof.Channel.PoolManagers

/-!
# The lifecycle of a `BroadcastPool`
-/

namespace Wangle.Proof.Channel
open Wangle.Channel Wangle.Transition BroadcastPool

variable {R : Type} {s s' : BroadcastPool R} {m : Nat} {manager manager' : BroadcastManager R}

/-- A new broadcast is not connected at once, nor asked for while another one for the same routing data is in
`setRoutingData`; and the pool is not destroyed while a connect is outstanding. -/
def Tame (s : BroadcastPool R) : Op R → Prop
  | .getHandler routingData connect => s.broadcasts routingData = none → connect ≠ some true ∧
      ∀ m ∈ s.stack, ∀ manager ∈ s.managers m, manager.routingData = routingData → manager.stage.isRouting = false
  | .unsubscribe m => ∀ manager ∈ s.managers m, manager.subscribers = 1 → Closable s m manager
  | .upstreamCloses m => ∀ manager ∈ s.managers m, Closable s m manager
  | .destroyPool => ∀ m < s.nextManager, ∀ manager ∈ s.managers m, manager.stage ≠ .connecting
  | _ => True

theorem notCalled_yields : Yields (· = .destroyed) Kept (.error .notCalled : Except PoolFault (BroadcastPool R)) :=
  nofun

/-! ## The end of the pool -/

theorem Managed.destroyPool (managed : Managed s m manager) {outcome : Outcome} (completed : manager.stage = .completed outcome)
    (destroyed : Bool) (broadcasts : s'.broadcasts = fun _ => none) (isDestroyed : s'.isDestroyed = true)
    (stack : s'.stack = s.stack) (futures : s'.futures = s.futures) (completions : s'.completions = s.completions) :
    Managed s' m { manager with destroyed := destroyed } where
  pooled := by
    rw [broadcasts, isDestroyed]
    exact ⟨nofun, fun isPooled => (nomatch isPooled.1)⟩
  waiting isConnecting := nomatch completed.symm.trans isConnecting
  active := by rw [stack, managed.active]
  routing caller isRouting := nomatch completed.symm.trans isRouting
  opened := managed.opened
  direct := managed.direct
  decided := managed.decided
  accounts := by
    rw [answers, completions, futures]
    exact managed.accounts
  answered := by
    rw [completions]
    exact managed.answered

theorem Kept.destroyPool (kept : Kept s) (tame : Tame s .destroyPool) : Yields (· = .destroyed) Kept s.destroyPool := by
  rw [BroadcastPool.destroyPool]
  split
  · exact notCalled_yields
  · rename_i possible
    obtain ⟨_, isStack⟩ := not_or.mp possible
    have isStack := not_not.mp isStack
    have rests {m : Nat} {manager : BroadcastManager R} (found : s.managers m = some manager) :=
      kept.rests isStack found (tame m (kept.lt_nextManager found) manager found)
    have dropped : ((List.range s.nextManager).flatMap fun m =>
        ((s.managers m).filter (s.isPooled m)).elim [] (broken m)) = [] := by
      refine List.flatMap_eq_nil_iff.mpr fun m _ => ?_
      cases found : s.managers m with
      | none => rfl
      | some manager =>
          rw [Option.filter_some]
          obtain ⟨_, _, none⟩ := rests found
          split
          · rw [Option.elim_some, broken, none, List.map_nil]
          · rfl
    have shape {m : Nat} {manager : BroadcastManager R} (found : s.managers m = some manager) :
        (if s.isPooled m manager then { manager with destroyed := true, sharedPromise := [] } else manager) =
          { manager with destroyed := s.isPooled m manager || manager.destroyed } := by
      obtain ⟨_, _, none⟩ := rests found
      cases isPooled : s.isPooled m manager with
      | true => simp [none]
      | false => simp
    simp only [dropped, List.append_nil]
    exact {
      unborn := fun m above => by
        simp only [kept.unborn m above, Option.map_none]
      entry := fun _ _ isEntry => by cases isEntry
      managed := fun m manager' isManager => by
        obtain ⟨manager, found, rfl⟩ := Option.map_eq_some_iff.mp isManager
        obtain ⟨outcome, completed, _⟩ := rests found
        rw [shape found]
        exact (kept.managed m manager found).destroyPool completed _ rfl rfl rfl rfl rfl
      stacked := ⟨kept.stacked.1, fun m member => by simpa using kept.stacked.2 m member⟩
      known := fun m member => by simpa using kept.known m member
      completed := fun completion member => by simpa using kept.completed completion member
      own := kept.own }

/-! ## A manager that stays in the pool -/

theorem answers_concat {completion : Completion} (isOwn : completion.manager = m)
    (completions : s'.completions = s.completions ++ [completion]) : answers m s' = answers m s ++ [completion.future] := by
  rw [answers, completions, List.filter_append, List.map_append, answers]
  simp [isOwn]

theorem joins_iff {futures : List Nat} {future other : Nat} :
    (futures ++ [m])[future]? = some other ↔ futures[future]? = some other ∨ future = futures.length ∧ m = other := by
  rcases Nat.lt_trichotomy future futures.length with before | rfl | after
  · simp [List.getElem?_append_left before, Nat.ne_of_lt before]
  · simp
  · simp [List.getElem?_append_right (Nat.le_of_lt after), List.getElem?_eq_none (Nat.le_of_lt after), Nat.ne_of_gt after,
      Nat.sub_ne_zero_of_lt after]

theorem joins_other {futures : List Nat} {other : Nat} (different : other ≠ m) (future : Nat) :
    (futures ++ [m])[future]? = some other ↔ futures[future]? = some other :=
  joins_iff.trans (or_iff_left fun isNew => different isNew.2.symm)

theorem stack_other {stack : List Nat} {other : Nat} (different : other ≠ m) : other ∈ m :: stack ↔ other ∈ stack :=
  List.mem_cons.trans (or_iff_right different)

theorem joined_count (futures : List Nat) (m future : Nat) :
    (if (futures ++ [m])[future]? = some m then 1 else 0) =
      (if futures[future]? = some m then 1 else 0) + [futures.length].count future := by
  rw [List.count_singleton]
  by_cases isNew : future = futures.length
  · simp [isNew]
  · simp [joins_iff, isNew, Ne.symm isNew]

theorem Managed.entry (managed : Managed s m manager) (alive : s.isDestroyed = false) (going : manager.deletingBroadcast = false)
    (undecided : manager.stage.outcome? = none) : s.broadcasts manager.routingData = some m := by
  refine managed.pooled.mpr ⟨alive, going, ?_⟩
  rw [undecided]
  exact nofun

theorem Managed.resubscribe (managed : Managed s m manager) (subscribers : Nat) :
    Managed (s.setManager m { manager with subscribers := subscribers }) m { manager with subscribers := subscribers } where
  pooled := managed.pooled
  waiting := managed.waiting
  active := managed.active
  routing := managed.routing
  opened := managed.opened
  direct := managed.direct
  decided := managed.decided
  accounts := managed.accounts
  answered := managed.answered

theorem Managed.accounts_concat (managed : Managed s m manager) {completion : Completion} (isOwn : completion.manager = m)
    (completions : s'.completions = s.completions ++ [completion]) {rest : List Nat}
    (owes : pending manager = completion.future :: rest) (future : Nat) :
    (answers m s').count future + rest.count future = if s.futures[future]? = some m then 1 else 0 := by
  rw [← managed.accounts future, answers_concat isOwn completions, owes, List.count_append]
  simp only [List.count_cons, List.count_nil]
  omega

theorem Managed.answered_concat (managed : Managed s m manager) {completion : Completion}
    (decided : manager.stage.outcome? = some completion.outcome) (isOpen : completion.outcome = .handler → completion.closed = false)
    (completions : s'.completions = s.completions ++ [completion]) :
    ∀ other ∈ s'.completions, other.manager = m →
      some completion.outcome = some other.outcome ∧ (other.outcome = .handler → other.closed = false) := by
  intro other member isOwn
  rw [completions, List.mem_append, List.mem_singleton] at member
  rcases member with old | rfl
  · rw [← decided]
    exact managed.answered other old isOwn
  · exact ⟨rfl, isOpen⟩

theorem Managed.settle (managed : Managed s m manager) (destroyed : Bool) {outcome : Outcome}
    (decided : manager.stage.outcome? = some outcome) (broadcasts : s'.broadcasts = s.broadcasts)
    (isDestroyed : s'.isDestroyed = s.isDestroyed) (absent : m ∉ s'.stack)
    (accounts : ∀ future, (answers m s').count future + ([] : List Nat).count future =
      if s'.futures[future]? = some m then 1 else 0)
    (answered : ∀ completion ∈ s'.completions, completion.manager = m →
      some outcome = some completion.outcome ∧ (completion.outcome = .handler → completion.closed = false)) :
    Managed s' m { manager with stage := .completed outcome, destroyed := destroyed } where
  pooled := by
    have pooled := managed.pooled
    rw [decided] at pooled
    rw [broadcasts, isDestroyed]
    exact pooled
  waiting := nofun
  active := ⟨fun member => absurd member absent, nofun⟩
  routing := nofun
  opened _ isOwed := absurd rfl isOwed
  direct := nofun
  decided _ := managed.settled decided
  accounts future := by
    have nothing : pending { manager with stage := .completed outcome, destroyed := destroyed } = [] := by
      rw [pending, managed.settled decided]
      rfl
    rw [nothing]
    exact accounts future
  answered := answered

theorem complete_completions (found : s.managers m = some manager) (future : Nat) (outcome : Outcome) :
    (s.complete future m outcome).completions = s.completions ++ [⟨future, m, outcome, manager.deletingBroadcast⟩] := by
  rw [complete, found]
  rfl

theorem Kept.fresh (kept : Kept s) : s.nextManager ∉ s.stack ∧ s.nextManager ∉ s.futures ∧
    (∀ completion ∈ s.completions, completion.manager ≠ s.nextManager) ∧
      ∀ routingData, s.broadcasts routingData ≠ some s.nextManager := by
  have unborn := kept.unborn s.nextManager (Nat.le_refl _)
  have nobody : ¬ (s.managers s.nextManager).isSome := by
    rw [unborn]
    exact nofun
  refine ⟨fun member => nobody (kept.stacked.2 _ member), fun member => nobody (kept.known _ member), ?_, ?_⟩
  · intro completion member isOwn
    exact nobody (isOwn ▸ kept.completed completion member)
  · intro routingData isEntry
    obtain ⟨manager, found, _⟩ := kept.entry routingData _ isEntry
    cases unborn.symm.trans found

theorem Managed.awaits (managed : Managed s m manager) (connecting : manager.stage = .connecting) :
    s.isDestroyed = false ∧ manager.deletingBroadcast = false ∧ s.broadcasts manager.routingData = some m ∧ m ∉ s.stack := by
  obtain ⟨alive, going, _⟩ := managed.waiting connecting
  refine ⟨alive, going, managed.entry alive going (by rw [connecting]; rfl), fun member => ?_⟩
  have isActive := managed.active.mp member
  rw [connecting] at isActive
  cases isActive

theorem Managed.setsRoutingData (managed : Managed s m manager) (connecting : manager.stage = .connecting) :
    Managed ({ s with stack := m :: s.stack }.setManager m { manager with stage := .settingRoutingData none }) m
      { manager with stage := .settingRoutingData none } where
  pooled := by
    obtain ⟨alive, going, isEntry, _⟩ := managed.awaits connecting
    exact ⟨fun _ => ⟨alive, going, fun _ isOutcome => (by cases isOutcome)⟩, fun _ => isEntry⟩
  waiting := nofun
  active := ⟨fun _ => rfl, fun _ => List.mem_cons_self⟩
  routing := by
    rintro _ ⟨⟩
    exact ⟨rfl, fun other isOther => (Option.some.inj ((managed.awaits connecting).2.2.1.symm.trans isOther)).symm⟩
  opened := nofun
  direct := nofun
  decided isDecided := absurd rfl isDecided
  accounts future := by
    have same : pending { manager with stage := .settingRoutingData none } = pending manager := by
      rw [pending, pending, connecting]
      rfl
    rw [same]
    exact managed.accounts future
  answered completion member isOwn := (managed.unanswered (by rw [connecting]; rfl) member isOwn).elim

theorem Managed.delivers (managed : Managed s m manager) {caller : Option Nat}
    (isRouting : manager.stage = .settingRoutingData caller) (going : manager.deletingBroadcast = false) :
    Managed (s.setManager m
      { manager with stage := .completing .handler manager.sharedPromise true caller, sharedPromise := [] }) m
      { manager with stage := .completing .handler manager.sharedPromise true caller, sharedPromise := [] } where
  pooled := by
    refine ⟨fun isEntry => ⟨(managed.pooled.mp isEntry).1, going, ?_⟩, fun isPooled => ?_⟩
    · rintro _ ⟨⟩
      rfl
    · exact managed.entry isPooled.1 going (by rw [isRouting]; rfl)
  waiting := nofun
  active := ⟨fun _ => rfl, fun _ => managed.active.mpr (by rw [isRouting]; rfl)⟩
  routing := nofun
  opened _ _ := going
  direct := by
    rintro _ _ _ ⟨⟩
    exact (managed.routing caller isRouting).1
  decided _ := rfl
  accounts future := by
    have same : pending { manager with
        stage := .completing .handler manager.sharedPromise true caller, sharedPromise := [] } = pending manager := by
      rw [pending, pending, isRouting]
      rfl
    rw [same]
    exact managed.accounts future
  answered completion member isOwn := (managed.unanswered (by rw [isRouting]; rfl) member isOwn).elim

theorem Managed.completes (managed : Managed s m manager) {outcome : Outcome} {future : Nat} {futures : List Nat} {guarded : Bool}
    {caller : Option Nat} (isCompleting : manager.stage = .completing outcome (future :: futures) guarded caller)
    (broadcasts : s'.broadcasts = s.broadcasts) (isDestroyed : s'.isDestroyed = s.isDestroyed) (stack : s'.stack = s.stack)
    (sameFutures : s'.futures = s.futures)
    (completions : s'.completions = s.completions ++ [⟨future, m, outcome, manager.deletingBroadcast⟩]) :
    Managed s' m { manager with stage := .completing outcome futures guarded caller } := by
  have decided : manager.stage.outcome? = some outcome := by rw [isCompleting]; rfl
  have isNext : owed manager.stage = future :: (futures ++ caller.toList) := by rw [isCompleting]; rfl
  have isOpen : outcome = .handler → manager.deletingBroadcast = false := by
    rintro rfl
    refine managed.opened decided ?_
    rw [isNext]
    exact List.cons_ne_nil _ _
  have owes : pending manager = future :: (manager.sharedPromise ++ (futures ++ caller.toList)) := by
    rw [pending, isNext, managed.settled decided]
    rfl
  have pooled := managed.pooled
  rw [decided] at pooled
  have accounts := managed.accounts_concat (by rfl) completions owes
  rw [← sameFutures] at accounts
  exact {
    pooled := by
      rw [broadcasts, isDestroyed]
      exact pooled
    waiting := fun isConnecting => by cases isConnecting
    active := ⟨fun _ => rfl, fun _ => by rw [stack, managed.active, isCompleting]; rfl⟩
    routing := fun _ isRouting => by cases isRouting
    opened := fun isHandler _ => isOpen (Option.some.inj isHandler)
    direct := by
      rintro _ _ _ ⟨⟩
      exact managed.direct _ _ _ isCompleting
    decided := fun _ => managed.settled decided
    accounts := accounts
    answered := managed.answered_concat decided isOpen completions }

section
variable [DecidableEq R]

theorem Kept.resubscribe (kept : Kept s) (found : s.managers m = some manager) (subscribers : Nat) :
    Kept (s.setManager m { manager with subscribers := subscribers }) :=
  kept.stay found (by rfl) rfl ⟨rfl, rfl, rfl, rfl⟩ kept.stacked.1 (fun _ _ => Iff.rfl) (fun _ _ _ => Iff.rfl)
    ⟨[], (List.append_nil _).symm, List.forall_mem_nil _⟩ ((kept.managed m manager found).resubscribe subscribers)

theorem Kept.setsRoutingData (kept : Kept s) (found : s.managers m = some manager) (connecting : manager.stage = .connecting) :
    Kept ({ s with stack := m :: s.stack }.setManager m { manager with stage := .settingRoutingData none }) := by
  have managed := kept.managed m manager found
  have resting := (managed.awaits connecting).2.2.2
  refine kept.stay found (by rfl) rfl ⟨rfl, rfl, rfl, rfl⟩ (List.nodup_cons.mpr ⟨resting, kept.stacked.1⟩) ?_
    (fun _ _ _ => Iff.rfl) ⟨[], (List.append_nil _).symm, List.forall_mem_nil _⟩ (managed.setsRoutingData connecting)
  intro other different
  exact stack_other different

theorem Kept.delivers (kept : Kept s) (found : s.managers m = some manager) {caller : Option Nat}
    (isRouting : manager.stage = .settingRoutingData caller) (going : manager.deletingBroadcast = false) :
    Kept (s.setManager m
      { manager with stage := .completing .handler manager.sharedPromise true caller, sharedPromise := [] }) :=
  kept.stay found (by rfl) rfl ⟨rfl, rfl, rfl, rfl⟩ kept.stacked.1 (fun _ _ => Iff.rfl) (fun _ _ _ => Iff.rfl)
    ⟨[], (List.append_nil _).symm, List.forall_mem_nil _⟩ ((kept.managed m manager found).delivers isRouting going)

theorem Kept.completes (kept : Kept s) (found : s.managers m = some manager) {outcome : Outcome} {future : Nat} {futures : List Nat}
    {guarded : Bool} {caller : Option Nat} (isCompleting : manager.stage = .completing outcome (future :: futures) guarded caller) :
    Kept ((s.complete future m outcome).setManager m { manager with stage := .completing outcome futures guarded caller }) := by
  have more := complete_completions found future outcome
  exact kept.stay found (by rfl) rfl ⟨rfl, rfl, rfl, rfl⟩ kept.stacked.1 (fun _ _ => Iff.rfl) (fun _ _ _ => Iff.rfl)
    ⟨_, more, by simp⟩ ((kept.managed m manager found).completes isCompleting rfl rfl rfl rfl more)

theorem Kept.finish (kept : Kept s) (found : s.managers m = some manager) {outcome : Outcome} {guarded : Bool} {caller : Option Nat}
    (isCompleting : manager.stage = .completing outcome [] guarded caller) {stack : List Nat} (isTop : s.stack = m :: stack) :
    Kept ({ s with stack := stack }.finish m outcome guarded caller) := by
  have managed := kept.managed m manager found
  have decided : manager.stage.outcome? = some outcome := by rw [isCompleting]; rfl
  have nothing : manager.sharedPromise = [] := managed.settled decided
  have owes : pending manager = caller.toList := by
    rw [pending, nothing, isCompleting]
    rfl
  obtain ⟨absent, nodup⟩ := List.nodup_cons.mp (isTop ▸ kept.stacked.1)
  have others : ∀ other, other ≠ m → (other ∈ stack ↔ other ∈ s.stack) := by
    intro other different
    rw [isTop, List.mem_cons, or_iff_right different]
  rw [BroadcastPool.finish]
  simp only [found]
  cases caller with
  | none =>
      refine kept.stay found (by rfl) rfl ⟨rfl, rfl, rfl, rfl⟩ nodup others (fun _ _ _ => Iff.rfl)
        ⟨[], (List.append_nil _).symm, List.forall_mem_nil _⟩ (managed.settle _ decided rfl rfl absent ?_ ?_)
      · rw [← Option.toList_none, ← owes]
        exact managed.accounts
      · rw [← decided]
        exact managed.answered
  | some future =>
      have failed : outcome ≠ .handler := by
        rintro rfl
        cases managed.direct _ _ _ isCompleting
      have more := @complete_completions _ ({ s with stack := stack }.setManager m
        { manager with stage := .completed outcome, destroyed := manager.destroyed ||
          (guarded && s.broadcasts manager.routingData ≠ some m) }) m _ (Function.update_self ..) future outcome
      exact kept.stay found (by rfl) rfl ⟨rfl, rfl, rfl, rfl⟩ nodup others (fun _ _ _ => Iff.rfl) ⟨_, more, by simp⟩
        (managed.settle _ decided rfl rfl absent (managed.accounts_concat (by rfl) more owes)
          (managed.answered_concat decided (fun isHandler => absurd isHandler failed) more))

theorem Kept.proceed (kept : Kept s) : Yields (· = .destroyed) Kept s.proceed := by
  rw [BroadcastPool.proceed]
  split
  · exact notCalled_yields
  · rename_i m stack isTop
    split
    · exact notCalled_yields
    · rename_i manager found
      have managed := kept.managed m manager found
      split
      · rename_i isCompleting
        exact kept.completes found isCompleting
      · rename_i outcome guarded caller isCompleting
        have closable (isHandler : outcome = .handler) (going : manager.deletingBroadcast = false) : Closable s m manager := by
          subst isHandler
          refine ⟨fun other isEntry => ?_, fun _ => ?_⟩
          · obtain ⟨manager', found', key⟩ := kept.entry _ other isEntry
            have alive := ((kept.managed other manager' found').pooled.mp (key ▸ isEntry)).1
            have isOwn : s.broadcasts manager.routingData = some m := by
              refine managed.pooled.mpr ⟨alive, going, ?_⟩
              rw [isCompleting]
              rintro _ ⟨⟩
              rfl
            exact Option.some.inj (isEntry.symm.trans isOwn)
          · rw [isCompleting, managed.direct _ _ _ isCompleting]
            rfl
        have remains : Remains m manager.stage s.stack (if outcome = .handler then s.closeIfIdle m manager else s) := by
          split
          · rename_i isHandler
            exact kept.closeIfIdle found (by rw [isCompleting]; exact nofun) fun _ => closable isHandler
          · exact kept.remains found
        obtain ⟨kept', isStack, manager', found', stage⟩ := remains
        exact kept'.finish found' (stage.trans isCompleting) (isStack.trans isTop)
      · exact notCalled_yields

theorem Kept.connectCompletes (kept : Kept s) (m : Nat) (success : Bool) :
    Yields (· = .destroyed) Kept (s.connectCompletes m success) := by
  rw [BroadcastPool.connectCompletes]
  split
  · exact notCalled_yields
  · rename_i manager found
    have managed := kept.managed m manager found
    split
    · exact notCalled_yields
    · rename_i connecting
      have connecting := not_not.mp connecting
      obtain ⟨_, _, isEntry, resting⟩ := managed.awaits connecting
      have undecided : manager.stage.outcome? = none := by rw [connecting]; rfl
      rw [if_neg (Bool.eq_false_iff.mp (managed.waiting connecting).2.2)]
      cases success with
      | true => exact kept.setsRoutingData found connecting
      | false =>
          have failed : Outcome.connectError ≠ .handler := by decide
          change Kept ({ s with stack := m :: s.stack }.handleConnectError m manager .connectError false none)
          refine kept.fail found undecided ?_ List.mem_cons_self (List.nodup_cons.mpr ⟨resting, kept.stacked.1⟩) ?_ failed ?_ false
          · intro other isOther
            exact (Option.some.inj (isEntry.symm.trans isOther)).symm
          · intro other different
            exact stack_other different
          · rw [pending, connecting]
            rfl

theorem Kept.setRoutingDataReturns (kept : Kept s) (throws : Bool) :
    Yields (· = .destroyed) Kept (s.setRoutingDataReturns throws) := by
  rw [BroadcastPool.setRoutingDataReturns]
  split
  · exact notCalled_yields
  · rename_i m stack isTop
    split
    · exact notCalled_yields
    · rename_i manager found
      split
      · rename_i caller isRouting
        have managed := kept.managed m manager found
        have failing {outcome : Outcome} (failed : outcome ≠ .handler) :
            Kept (s.handleConnectError m manager outcome true caller) :=
          kept.fail found (by rw [isRouting]; rfl) (managed.routing caller isRouting).2 (by rw [isTop]; exact List.mem_cons_self)
            kept.stacked.1 (fun _ _ => Iff.rfl) failed (by rw [pending, isRouting]; rfl) true
        split
        · exact failing (by decide)
        · split
          · exact failing (by decide)
          · rename_i going
            exact kept.delivers found isRouting (by simpa using going)
      · exact notCalled_yields

/-! ## A caller -/

theorem Kept.joins (kept : Kept s) (found : s.managers m = some manager) (undecided : manager.stage.outcome? = none) :
    Kept ({ s with futures := s.futures ++ [m] }.setManager m
      { manager with sharedPromise := manager.sharedPromise ++ [s.futures.length] }) := by
  have managed := kept.managed m manager found
  refine kept.stay found (by rfl) rfl ⟨rfl, rfl, rfl, rfl⟩ kept.stacked.1 (fun _ _ => Iff.rfl) ?_
    ⟨[], (List.append_nil _).symm, List.forall_mem_nil _⟩ ?_
  · intro future other different
    exact joins_other different future
  · exact {
      pooled := managed.pooled
      waiting := managed.waiting
      active := managed.active
      routing := managed.routing
      opened := managed.opened
      direct := managed.direct
      decided := fun isDecided => absurd undecided isDecided
      accounts := fun future => by
        change (answers m s).count future + (manager.sharedPromise ++ [s.futures.length] ++ owed manager.stage).count future =
          if (s.futures ++ [m])[future]? = some m then 1 else 0
        rw [joined_count, ← managed.accounts future, pending]
        simp only [List.count_append]
        omega
      answered := managed.answered }

theorem Kept.answersAtOnce (kept : Kept s) (found : s.managers m = some manager) {outcome : Outcome}
    (decided : manager.stage.outcome? = some outcome) (isEntry : s.broadcasts manager.routingData = some m) :
    Kept ({ s with futures := s.futures ++ [m] }.complete s.futures.length m outcome) := by
  have managed := kept.managed m manager found
  have going := (managed.pooled.mp isEntry).2.1
  have more := @complete_completions _ { s with futures := s.futures ++ [m] } m manager found s.futures.length outcome
  refine kept.stay found (by rfl) ?_ ⟨rfl, rfl, rfl, rfl⟩ kept.stacked.1 (fun _ _ => Iff.rfl) ?_ ⟨_, more, by simp⟩ ?_
  · rw [← found, Function.update_eq_self]
    rfl
  · intro future other different
    exact joins_other different future
  · exact {
      pooled := managed.pooled
      waiting := managed.waiting
      active := managed.active
      routing := managed.routing
      opened := managed.opened
      direct := managed.direct
      decided := managed.decided
      accounts := fun future => by
        have grown : answers m ({ s with futures := s.futures ++ [m] }.complete s.futures.length m outcome) =
            answers m s ++ [s.futures.length] := answers_concat (by rfl) more
        rw [grown, List.count_append]
        change _ = if (s.futures ++ [m])[future]? = some m then 1 else 0
        rw [joined_count, ← managed.accounts future]
        omega
      answered := by
        rw [decided]
        exact managed.answered_concat decided (fun _ => going) more }

abbrev started (routingData : R) (s : BroadcastPool R) : BroadcastPool R :=
  { s with
    nextManager := s.nextManager + 1
    futures := s.futures ++ [s.nextManager]
    broadcasts := Function.update s.broadcasts routingData (some s.nextManager) }.setManager s.nextManager
      { routingData := routingData, sharedPromise := [s.futures.length] }

theorem Kept.starts_touches (kept : Kept s) {routingData : R} (absent : s.broadcasts routingData = none)
    (quiet : ∀ m ∈ s.stack, ∀ manager ∈ s.managers m, manager.routingData = routingData → manager.stage.isRouting = false) :
    Touches s.nextManager s (started routingData s) where
  managers other different := Function.update_of_ne different ..
  isDestroyed := rfl
  broadcasts key other different := by
    change Function.update s.broadcasts routingData (some s.nextManager) key = some other ↔ _
    rw [Function.update_apply]
    split
    · rename_i same
      rw [same, absent]
      exact ⟨fun isEntry => absurd (Option.some.inj isEntry).symm different, fun isEntry => by cases isEntry⟩
    · rfl
  stack _ _ := Iff.rfl
  futures future other different := joins_other different future
  completions := ⟨[], (List.append_nil _).symm, List.forall_mem_nil _⟩
  routing key isEntry := by
    change Function.update s.broadcasts routingData (some s.nextManager) key = some s.nextManager at isEntry
    rw [Function.update_apply] at isEntry
    split at isEntry
    · rename_i same
      refine .inr fun other _ manager found isKey => ?_
      by_cases member : other ∈ s.stack
      · exact quiet other member manager found (isKey.trans same)
      · rw [(kept.managed other manager found).active] at member
        cases stage : manager.stage with
        | settingRoutingData caller => exact absurd (by rw [stage]; rfl) member
        | connecting | completing | completed => rfl
    · exact .inl isEntry

theorem Kept.starts_managed (kept : Kept s) (alive : s.isDestroyed = false) (routingData : R) :
    Managed (started routingData s) s.nextManager { routingData := routingData, sharedPromise := [s.futures.length] } where
  pooled := ⟨fun _ => ⟨alive, rfl, nofun⟩, fun _ => Function.update_self ..⟩
  waiting _ := ⟨alive, rfl, rfl⟩
  active := ⟨fun member => absurd member kept.fresh.1, nofun⟩
  routing := nofun
  opened := nofun
  direct := nofun
  decided isDecided := absurd rfl isDecided
  accounts future := by
    obtain ⟨_, notKnown, notCompleted, _⟩ := kept.fresh
    have none : answers s.nextManager s = [] := by
      rw [answers, List.filter_eq_nil_iff.mpr fun completion member => by simpa using notCompleted completion member]
      rfl
    change (answers s.nextManager s).count future + [s.futures.length].count future =
      if (s.futures ++ [s.nextManager])[future]? = some s.nextManager then 1 else 0
    rw [joined_count, none, List.count_nil, if_neg]
    exact fun isFuture => notKnown (List.mem_of_getElem? isFuture)
  answered completion member isOwn := absurd isOwn (kept.fresh.2.2.1 completion member)

theorem Kept.starts (kept : Kept s) (alive : s.isDestroyed = false) {routingData : R} (absent : s.broadcasts routingData = none)
    (quiet : ∀ m ∈ s.stack, ∀ manager ∈ s.managers m, manager.routingData = routingData → manager.stage.isRouting = false) :
    Kept (started routingData s) := by
  refine kept.touch (kept.starts_touches absent quiet) (Function.update_self ..) (kept.starts_managed alive routingData)
    (Nat.lt_succ_self _) (Nat.le_succ _) ?_ kept.stacked.1 kept.own
  intro key isEntry
  change Function.update s.broadcasts routingData (some s.nextManager) key = some s.nextManager at isEntry
  rw [Function.update_apply] at isEntry
  split at isEntry
  · rename_i same
    exact same.symm
  · exact absurd isEntry (kept.fresh.2.2.2 key)

theorem Kept.failsAtOnce (kept : Kept (started routingData s)) :
    Kept ({ s with
      nextManager := s.nextManager + 1
      futures := s.futures ++ [s.nextManager]
      broadcasts := Function.update s.broadcasts routingData (some s.nextManager)
      stack := s.nextManager :: s.stack }.handleConnectError s.nextManager { routingData := routingData } .connectError false
        (some s.futures.length)) := by
  have found : (started routingData s).managers s.nextManager =
      some { routingData := routingData, sharedPromise := [s.futures.length] } := Function.update_self ..
  have failed : Outcome.connectError ≠ .handler := by decide
  have absent := (kept.managed _ _ found).active.not.mpr nofun
  have kept' := @Kept.fail _ _ _ _ _ kept found rfl ?_ (s.nextManager :: s.stack) List.mem_cons_self
    (List.nodup_cons.mpr ⟨absent, kept.stacked.1⟩) ?_ _ failed [] (some s.futures.length) rfl false
  · have again (manager : Option (BroadcastManager R)) : Function.update (started routingData s).managers s.nextManager manager =
        Function.update s.managers s.nextManager manager := Function.update_idem ..
    rw [BroadcastPool.setManager, again] at kept'
    exact kept'
  · intro other isEntry
    change Function.update s.broadcasts routingData (some s.nextManager) routingData = some other at isEntry
    rw [Function.update_self] at isEntry
    exact (Option.some.inj isEntry).symm
  · intro other different
    exact stack_other different

theorem Kept.getHandler (kept : Kept s) {routingData : R} {connect : Option Bool} (tame : Tame s (.getHandler routingData connect)) :
    Yields (· = .destroyed) Kept (s.getHandler routingData connect) := by
  rw [BroadcastPool.getHandler]
  split
  · exact notCalled_yields
  · rename_i alive
    have alive : s.isDestroyed = false := by simpa using alive
    simp only
    split
    · rename_i m isEntry
      split
      · exact notCalled_yields
      · rename_i manager found
        have key := kept.keyed found isEntry
        split
        · rename_i outcome decided
          exact kept.answersAtOnce found decided (key ▸ isEntry)
        · rename_i undecided
          exact kept.joins found undecided
    · rename_i absent
      obtain ⟨later, quiet⟩ := tame absent
      have kept' := kept.starts alive absent quiet
      split
      · exact kept'
      · exact absurd rfl later
      · exact kept'.failsAtOnce

/-! ## Whole runs -/

theorem step_kept {op : Op R} (kept : Kept s) (tame : Tame s op) : Yields (· = .destroyed) Kept (s.step op) := by
  cases op with
  | getHandler routingData connect => exact kept.getHandler tame
  | connectCompletes m success => exact kept.connectCompletes m success
  | setRoutingDataReturns throws => exact kept.setRoutingDataReturns throws
  | proceed => exact kept.proceed
  | subscribe m =>
      simp only [step, subscribe]
      split
      · exact notCalled_yields
      · rename_i manager found
        split
        · exact notCalled_yields
        · exact kept.resubscribe found (manager.subscribers + 1)
  | unsubscribe m =>
      simp only [step, unsubscribe]
      split
      · exact notCalled_yields
      · rename_i manager found
        split
        · exact notCalled_yields
        · rename_i possible
          have kept' := kept.resubscribe found (manager.subscribers - 1)
          refine (kept'.closeIfIdle (Function.update_self ..) (fun isConnecting => possible (.inl isConnecting)) ?_).1
          intro idle _
          refine tame manager found (Nat.le_antisymm (Nat.sub_eq_zero_iff_le.mp idle) (Nat.pos_of_ne_zero ?_))
          exact fun none => possible (.inr (.inr none))
  | upstreamCloses m =>
      simp only [step, upstreamCloses]
      split
      · exact notCalled_yields
      · rename_i manager found
        split
        · exact notCalled_yields
        · rename_i possible
          have kept' := kept.resubscribe found 0
          exact (kept'.deletePipeline (Function.update_self ..) (fun isConnecting => possible (.inl isConnecting))
            fun _ => tame manager found).1
  | destroyPool => exact kept.destroyPool tame

theorem run_lawful (ops : List (Op R)) (tame : Along step Tame {} ops) :
    BroadcastPool.run {} ops ≠ .error .destroyed ∧ ∀ s, BroadcastPool.run {} ops = .ok s → Lawful s := by
  have yields := yields_run (fun s op kept permitted => step_kept kept permitted) init_kept tame
  exact ⟨yields.ne_error rfl, fun s done => (yields.of_ok done).lawful⟩

instance (s : BroadcastPool R) (op : Op R) : Decidable (Tame s op) := by
  unfold Tame
  split <;> infer_instance

end

def sharing : List (Op Nat) :=
  [.getHandler 7 none, .getHandler 7 none, .connectCompletes 0 true, .setRoutingDataReturns false, .proceed, .subscribe 0,
    .proceed, .proceed, .getHandler 7 none, .getHandler 8 (some false), .proceed, .unsubscribe 0, .getHandler 7 none,
    .connectCompletes 2 false, .proceed, .proceed, .destroyPool]

theorem sharing_lawful : ∃ s, BroadcastPool.run {} sharing = .ok s ∧
    s.completions.map (fun completion => (completion.manager, completion.outcome)) =
      [(0, .handler), (0, .handler), (0, .handler), (1, .connectError), (2, .connectError)] ∧ Lawful s := by
  have ends : Ends (fun s => s.completions.map (fun completion => (completion.manager, completion.outcome)) =
      [(0, .handler), (0, .handler), (0, .handler), (1, .connectError), (2, .connectError)]) (BroadcastPool.run {} sharing) := by
    decide +kernel
  obtain ⟨s, done, outcomes⟩ := ends.exists_ok
  exact ⟨s, done, outcomes, (run_lawful sharing (by decide +kernel)).2 s done⟩

/-- The connect completes at once, and the handler is closed before its caller has it; the first of two callers leaves
the broadcast and the second one gets its closed handler; a manager whose pipeline has been deleted in `setRoutingData`
removes the one that has been made in the meantime, whose connect then finds it destroyed; and the same happens to a
connect that outlives the pool. -/
theorem overlapping_not_lawful :
    (∃ s, BroadcastPool.run {} [.getHandler 0 (some true), .setRoutingDataReturns false, .proceed] = .ok s ∧
      s.completions = [⟨0, 0, .handler, true⟩]) ∧
    (∃ s, BroadcastPool.run {} [.getHandler 0 none, .getHandler 0 none, .connectCompletes 0 true, .setRoutingDataReturns false,
        .proceed, .subscribe 0, .unsubscribe 0, .proceed] = .ok s ∧
      s.completions = [⟨0, 0, .handler, false⟩, ⟨1, 0, .handler, true⟩]) ∧
    (∃ s, BroadcastPool.run {} [.getHandler 0 none, .connectCompletes 0 true, .upstreamCloses 0, .getHandler 0 none,
        .setRoutingDataReturns false] = .ok s ∧
      s.erasures = [(0, 0), (0, 1)] ∧ s.completions = [⟨1, 1, .broken, false⟩]) ∧
    stuck? (BroadcastPool.run {} [.getHandler 0 none, .connectCompletes 0 true, .upstreamCloses 0, .getHandler 0 none,
      .setRoutingDataReturns false, .connectCompletes 1 true]) = some .destroyed ∧
    stuck? (BroadcastPool.run {} [.getHandler 0 none, .destroyPool, .connectCompletes 0 true]) = some .destroyed :=
  ⟨Ends.exists_ok (by decide +kernel), Ends.exists_ok (by decide +kernel), Ends.exists_ok (by decide +kernel),
    by decide +kernel, by decide +kernel⟩

end Wangle.Proof.Channel
