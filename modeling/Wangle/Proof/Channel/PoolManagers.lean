import Wangle.Channel.BroadcastPool
import Mathlib.Data.List.Count
import Mathlib.Data.List.Nodup

/-!
# The managers of a `BroadcastPool`

Each manager is followed on its own: its entry in the pool, its place on the stack, the futures that have come from
it and those that have been completed. An event changes one manager, and every other one keeps what holds of it.
-/

namespace Wangle.Proof.Channel
open Wangle.Channel Wangle.Transition BroadcastPool

variable {R : Type}

def owed : ManagerStage → List Nat
  | .settingRoutingData caller => caller.toList
  | .completing _ futures _ caller => futures ++ caller.toList
  | _ => []

def pending (manager : BroadcastManager R) : List Nat := manager.sharedPromise ++ owed manager.stage

def answers (m : Nat) (s : BroadcastPool R) : List Nat := (s.completions.filter (·.manager = m)).map (·.future)

/-! ## What the pool promises -/

def Idle (s : BroadcastPool R) : Prop := s.stack = [] ∧ ∀ m, ∀ manager ∈ s.managers m, manager.stage ≠ .connecting

structure Lawful (s : BroadcastPool R) : Prop where
  entry : ∀ routingData, ∀ m ∈ s.broadcasts routingData, ∃ manager ∈ s.managers m, manager.routingData = routingData
  oneConnect : ∀ m m', ∀ manager ∈ s.managers m, ∀ manager' ∈ s.managers m', manager.stage = .connecting →
    manager'.stage = .connecting → manager.routingData = manager'.routingData → m = m'
  once : ∀ future, s.completions.countP (·.future = future) ≤ 1
  -- only when the whole pool is idle: a connect for other routing data that is outstanding suspends it
  all : Idle s → ∀ future < s.futures.length, s.completions.countP (·.future = future) = 1
  joined : ∀ completion ∈ s.completions, s.futures[completion.future]? = some completion.manager
  same : ∀ first ∈ s.completions, ∀ second ∈ s.completions, first.manager = second.manager → first.outcome = second.outcome
  own : ∀ erasure ∈ s.erasures, erasure.1 = erasure.2
  opened : ∀ completion ∈ s.completions, completion.outcome = .handler → completion.closed = false

/-- Manager `m` would remove its own entry only, and no continuation is left that has still to get its handler. -/
abbrev Closable (s : BroadcastPool R) (m : Nat) (manager : BroadcastManager R) : Prop :=
  (∀ other ∈ s.broadcasts manager.routingData, other = m) ∧
    (manager.stage.outcome? = some .handler → owed manager.stage = [])

/-! ## One manager -/

structure Managed (s : BroadcastPool R) (m : Nat) (manager : BroadcastManager R) : Prop where
  pooled : s.broadcasts manager.routingData = some m ↔
    s.isDestroyed = false ∧ manager.deletingBroadcast = false ∧ ∀ outcome ∈ manager.stage.outcome?, outcome = .handler
  waiting : manager.stage = .connecting →
    s.isDestroyed = false ∧ manager.deletingBroadcast = false ∧ manager.destroyed = false
  active : m ∈ s.stack ↔ manager.stage.isActive = true
  routing : ∀ caller, manager.stage = .settingRoutingData caller →
    caller = none ∧ ∀ other ∈ s.broadcasts manager.routingData, other = m
  opened : manager.stage.outcome? = some .handler → owed manager.stage ≠ [] → manager.deletingBroadcast = false
  direct : ∀ futures guarded caller, manager.stage = .completing .handler futures guarded caller → caller = none
  decided : manager.stage.outcome? ≠ none → manager.sharedPromise = []
  accounts : ∀ future, (answers m s).count future + (pending manager).count future =
    if s.futures[future]? = some m then 1 else 0
  answered : ∀ completion ∈ s.completions, completion.manager = m →
    manager.stage.outcome? = some completion.outcome ∧ (completion.outcome = .handler → completion.closed = false)

structure Kept (s : BroadcastPool R) : Prop where
  unborn : ∀ m, s.nextManager ≤ m → s.managers m = none
  entry : ∀ routingData, ∀ m ∈ s.broadcasts routingData, ∃ manager ∈ s.managers m, manager.routingData = routingData
  managed : ∀ m, ∀ manager ∈ s.managers m, Managed s m manager
  stacked : s.stack.Nodup ∧ ∀ m ∈ s.stack, (s.managers m).isSome
  known : ∀ m ∈ s.futures, (s.managers m).isSome
  completed : ∀ completion ∈ s.completions, (s.managers completion.manager).isSome
  own : ∀ erasure ∈ s.erasures, erasure.1 = erasure.2

variable {s s' : BroadcastPool R} {m : Nat} {manager manager' : BroadcastManager R}

theorem init_kept : Kept ({} : BroadcastPool R) :=
  ⟨fun _ _ => rfl, nofun, nofun, ⟨.nil, nofun⟩, nofun, nofun, nofun⟩

theorem Managed.unanswered (managed : Managed s m manager) (undecided : manager.stage.outcome? = none)
    {completion : Completion} (member : completion ∈ s.completions) (isOwn : completion.manager = m) : False := by
  have answered := (managed.answered completion member isOwn).1
  rw [undecided] at answered
  cases answered

theorem Managed.settled (managed : Managed s m manager) {outcome : Outcome} (decided : manager.stage.outcome? = some outcome) :
    manager.sharedPromise = [] := by
  refine managed.decided fun undecided => ?_
  rw [decided] at undecided
  cases undecided

structure Touches (m : Nat) (s s' : BroadcastPool R) : Prop where
  managers : ∀ other, other ≠ m → s'.managers other = s.managers other
  isDestroyed : s'.isDestroyed = s.isDestroyed
  broadcasts : ∀ routingData other, other ≠ m →
    (s'.broadcasts routingData = some other ↔ s.broadcasts routingData = some other)
  stack : ∀ other, other ≠ m → (other ∈ s'.stack ↔ other ∈ s.stack)
  futures : ∀ future other : Nat, other ≠ m → (s'.futures[future]? = some other ↔ s.futures[future]? = some other)
  completions : ∃ more, s'.completions = s.completions ++ more ∧ ∀ completion ∈ more, completion.manager = m
  routing : ∀ routingData, s'.broadcasts routingData = some m → s.broadcasts routingData = some m ∨
    ∀ other, other ≠ m → ∀ manager ∈ s.managers other, manager.routingData = routingData → manager.stage.isRouting = false

theorem Touches.answers (touches : Touches m s s') {other : Nat} (different : other ≠ m) : answers other s' = answers other s := by
  obtain ⟨more, isMore, own⟩ := touches.completions
  have none : more.filter (·.manager = other) = [] := by
    refine List.filter_eq_nil_iff.mpr fun completion member => ?_
    simpa [own completion member] using Ne.symm different
  rw [Channel.answers, isMore, List.filter_append, none, List.append_nil, Channel.answers]

theorem Managed.untouched {other : Nat} (managed : Managed s other manager) (touches : Touches m s s') (different : other ≠ m)
    (found : manager ∈ s.managers other) : Managed s' other manager where
  pooled := by rw [touches.broadcasts _ _ different, touches.isDestroyed, managed.pooled]
  waiting connecting := by rw [touches.isDestroyed]; exact managed.waiting connecting
  active := by rw [touches.stack other different, managed.active]
  routing caller isRouting := by
    refine ⟨(managed.routing caller isRouting).1, fun entry isEntry => ?_⟩
    by_cases isOwn : entry = m
    · subst isOwn
      rcases touches.routing _ isEntry with before | quiet
      · exact (managed.routing caller isRouting).2 entry before
      · have idle := quiet other different manager found rfl
        rw [isRouting] at idle
        cases idle
    · exact (managed.routing caller isRouting).2 entry ((touches.broadcasts _ _ isOwn).mp isEntry)
  opened := managed.opened
  direct := managed.direct
  decided := managed.decided
  accounts future := by
    rw [touches.answers different, managed.accounts future]
    simp only [touches.futures future other different]
  answered completion member isOwn := by
    obtain ⟨more, isMore, own⟩ := touches.completions
    rw [isMore, List.mem_append] at member
    rcases member with old | new
    · exact managed.answered completion old isOwn
    · exact absurd (isOwn.symm.trans (own completion new)) different

theorem Kept.touch (kept : Kept s) (touches : Touches m s s') (found : s'.managers m = some manager)
    (managed : Managed s' m manager) (bound : m < s'.nextManager) (later : s.nextManager ≤ s'.nextManager)
    (keyed : ∀ routingData, s'.broadcasts routingData = some m → manager.routingData = routingData)
    (nodup : s'.stack.Nodup) (own : ∀ erasure ∈ s'.erasures, erasure.1 = erasure.2) : Kept s' where
  unborn other above := by
    have different : other ≠ m := by
      rintro rfl
      exact Nat.lt_irrefl _ (Nat.lt_of_lt_of_le bound above)
    rw [touches.managers other different]
    exact kept.unborn other (Nat.le_trans later above)
  entry routingData other isEntry := by
    by_cases isOwn : other = m
    · subst isOwn
      exact ⟨manager, found, keyed routingData isEntry⟩
    · rw [touches.managers other isOwn]
      exact kept.entry routingData other ((touches.broadcasts _ _ isOwn).mp isEntry)
  managed other manager' isManager := by
    by_cases isOwn : other = m
    · subst isOwn
      cases found.symm.trans isManager
      exact managed
    · rw [touches.managers other isOwn] at isManager
      exact (kept.managed other manager' isManager).untouched touches isOwn isManager
  stacked := by
    refine ⟨nodup, fun other member => ?_⟩
    by_cases isOwn : other = m
    · rw [isOwn, found]
      rfl
    · rw [touches.managers other isOwn]
      exact kept.stacked.2 other ((touches.stack other isOwn).mp member)
  known other member := by
    by_cases isOwn : other = m
    · rw [isOwn, found]
      rfl
    · rw [touches.managers other isOwn]
      obtain ⟨future, isFuture⟩ := List.mem_iff_getElem?.mp member
      exact kept.known other (List.mem_iff_getElem?.mpr ⟨future, (touches.futures future other isOwn).mp isFuture⟩)
  completed completion member := by
    by_cases isOwn : completion.manager = m
    · rw [isOwn, found]
      rfl
    · rw [touches.managers _ isOwn]
      obtain ⟨more, isMore, own⟩ := touches.completions
      rw [isMore, List.mem_append] at member
      rcases member with old | new
      · exact kept.completed completion old
      · exact absurd (own completion new) isOwn
  own := own

/-! ## The promises, from what is kept -/

theorem Kept.joined (kept : Kept s) {completion : Completion} (member : completion ∈ s.completions) :
    s.futures[completion.future]? = some completion.manager := by
  obtain ⟨manager, found⟩ := Option.isSome_iff_exists.mp (kept.completed completion member)
  have accounts := (kept.managed _ manager found).accounts completion.future
  have answered : 0 < (answers completion.manager s).count completion.future := by
    refine List.count_pos_iff.mpr (List.mem_map_of_mem (List.mem_filter.mpr ⟨member, ?_⟩))
    exact decide_eq_true rfl
  split at accounts
  · assumption
  · omega

theorem Kept.countP_future (kept : Kept s) {future : Nat} (isFuture : s.futures[future]? = some m) :
    s.completions.countP (·.future = future) = (answers m s).count future := by
  rw [answers, List.count, List.countP_map, List.countP_filter]
  refine List.countP_congr fun completion member => ?_
  have joined := kept.joined member
  simp only [Function.comp_apply, decide_eq_true_eq, Bool.and_eq_true, beq_iff_eq]
  constructor
  · rintro rfl
    exact ⟨rfl, Option.some.inj (joined.symm.trans isFuture)⟩
  · exact And.left

theorem Kept.rests (kept : Kept s) (quiet : s.stack = []) (found : s.managers m = some manager)
    (connected : manager.stage ≠ .connecting) : ∃ outcome, manager.stage = .completed outcome ∧ manager.sharedPromise = [] := by
  have managed := kept.managed m manager found
  have resting : ¬ manager.stage.isActive = true := by
    rw [← managed.active, quiet]
    exact List.not_mem_nil
  cases stage : manager.stage with
  | connecting => exact absurd stage connected
  | settingRoutingData | completing => exact absurd (by rw [stage]; rfl) resting
  | completed outcome => exact ⟨outcome, rfl, managed.settled (by rw [stage]; rfl)⟩

theorem Kept.lawful (kept : Kept s) : Lawful s where
  entry := kept.entry
  oneConnect m m' manager found manager' found' connecting connecting' same := by
    have pooled {v : Nat} {w : BroadcastManager R} (isManager : w ∈ s.managers v) (isConnecting : w.stage = .connecting) :
        s.broadcasts w.routingData = some v := by
      have managed := kept.managed v w isManager
      obtain ⟨alive, going, _⟩ := managed.waiting isConnecting
      refine managed.pooled.mpr ⟨alive, going, ?_⟩
      rw [isConnecting]
      exact nofun
    have first := pooled found connecting
    have second := pooled found' connecting'
    rw [same, second] at first
    exact (Option.some.inj first).symm
  once future := by
    cases isFuture : s.futures[future]? with
    | none =>
        have none : s.completions.countP (·.future = future) = 0 := by
          refine List.countP_eq_zero.mpr fun completion member isOwn => ?_
          have joined := kept.joined member
          rw [of_decide_eq_true isOwn, isFuture] at joined
          cases joined
        rw [none]
        exact Nat.zero_le 1
    | some m =>
        obtain ⟨manager, found⟩ := Option.isSome_iff_exists.mp (kept.known m (List.mem_of_getElem? isFuture))
        have accounts := (kept.managed m manager found).accounts future
        rw [if_pos isFuture] at accounts
        rw [kept.countP_future isFuture]
        omega
  all idle future bound := by
    obtain ⟨m, isFuture⟩ : ∃ m, s.futures[future]? = some m := ⟨_, List.getElem?_eq_getElem bound⟩
    obtain ⟨manager, found⟩ := Option.isSome_iff_exists.mp (kept.known m (List.mem_of_getElem? isFuture))
    obtain ⟨outcome, completed, none⟩ := kept.rests idle.1 found (idle.2 m manager found)
    have nothing : pending manager = [] := by
      rw [pending, none, completed]
      rfl
    have accounts := (kept.managed m manager found).accounts future
    rw [if_pos isFuture, nothing, List.count_nil] at accounts
    rw [kept.countP_future isFuture]
    exact accounts
  joined completion member := kept.joined member
  same first isFirst second isSecond same := by
    obtain ⟨manager, found⟩ := Option.isSome_iff_exists.mp (kept.completed first isFirst)
    have managed := kept.managed _ manager found
    have outcome := (managed.answered first isFirst rfl).1
    rw [(managed.answered second isSecond same.symm).1] at outcome
    exact (Option.some.inj outcome).symm
  own := kept.own
  opened completion member := by
    obtain ⟨manager, found⟩ := Option.isSome_iff_exists.mp (kept.completed completion member)
    exact ((kept.managed _ manager found).answered completion member rfl).2

theorem Kept.lt_nextManager (kept : Kept s) (found : s.managers m = some manager) : m < s.nextManager := by
  by_contra above
  rw [kept.unborn m (Nat.le_of_not_lt above)] at found
  cases found

theorem Kept.keyed (kept : Kept s) (found : s.managers m = some manager) {routingData : R}
    (isEntry : s.broadcasts routingData = some m) : manager.routingData = routingData := by
  obtain ⟨manager', found', key⟩ := kept.entry routingData m isEntry
  cases found.symm.trans found'
  exact key

theorem Managed.of_eq (managed : Managed s m manager) (broadcasts : s'.broadcasts = s.broadcasts)
    (isDestroyed : s'.isDestroyed = s.isDestroyed) (stack : s'.stack = s.stack) (futures : s'.futures = s.futures)
    (completions : s'.completions = s.completions) : Managed s' m manager where
  pooled := by rw [broadcasts, isDestroyed, managed.pooled]
  waiting := by rw [isDestroyed]; exact managed.waiting
  active := by rw [stack, managed.active]
  routing := by rw [broadcasts]; exact managed.routing
  opened := managed.opened
  direct := managed.direct
  decided := managed.decided
  accounts := by rw [answers, completions, futures]; exact managed.accounts
  answered := by rw [completions]; exact managed.answered

/-! ## Leaving the pool -/

def Remains (m : Nat) (stage : ManagerStage) (stack : List Nat) (s : BroadcastPool R) : Prop :=
  Kept s ∧ s.stack = stack ∧ ∃ manager, s.managers m = some manager ∧ manager.stage = stage

theorem Kept.remains (kept : Kept s) (found : s.managers m = some manager) : Remains m manager.stage s.stack s :=
  ⟨kept, rfl, manager, found, rfl⟩

section
variable [DecidableEq R]

theorem deleteBroadcast_own (found : s.managers m = some manager)
    (own : ∀ other ∈ s.broadcasts manager.routingData, other = m)
    (settled : manager.stage.isGuarded = false → manager.sharedPromise = []) :
    ∃ destroyed erasures, s.deleteBroadcast m manager.routingData =
        { s with
          managers := Function.update s.managers m (some { manager with destroyed := destroyed })
          broadcasts := Function.update s.broadcasts manager.routingData none
          erasures := s.erasures ++ erasures } ∧
      ∀ erasure ∈ erasures, erasure = (m, m) := by
  rw [deleteBroadcast]
  split
  · rename_i absent
    refine ⟨manager.destroyed, [], ?_, nofun⟩
    rw [List.append_nil, ← absent, Function.update_eq_self, ← found, Function.update_eq_self]
  · rename_i victim isEntry
    obtain rfl := own victim isEntry
    have keep : Function.update s.managers victim (some manager) = s.managers := by rw [← found, Function.update_eq_self]
    refine ⟨if manager.stage.isGuarded then manager.destroyed else true, [(victim, victim)], ?_, by simp⟩
    cases guarded : manager.stage.isGuarded with
    | true => simp [found, guarded, keep]
    | false => simp [found, guarded, destroyManager, broken, settled guarded, BroadcastPool.setManager]

theorem touches_of_own {broadcasts : R → Option Nat}
    (leaves : broadcasts = s.broadcasts ∨ ∃ routingData, broadcasts = Function.update s.broadcasts routingData none ∧
      ∀ other ∈ s.broadcasts routingData, other = m)
    (managers : ∀ other, other ≠ m → s'.managers other = s.managers other) (isDestroyed : s'.isDestroyed = s.isDestroyed)
    (isBroadcasts : s'.broadcasts = broadcasts) (stack : ∀ other, other ≠ m → (other ∈ s'.stack ↔ other ∈ s.stack))
    (futures : ∀ future other : Nat, other ≠ m → (s'.futures[future]? = some other ↔ s.futures[future]? = some other))
    (completions : ∃ more, s'.completions = s.completions ++ more ∧ ∀ completion ∈ more, completion.manager = m) :
    Touches m s s' where
  managers := managers
  isDestroyed := isDestroyed
  broadcasts routingData other different := by
    rw [isBroadcasts]
    rcases leaves with rfl | ⟨left, rfl, own⟩
    · rfl
    · rw [Function.update_apply]
      split
      · rename_i same
        subst same
        exact ⟨nofun, fun isEntry => absurd (own other isEntry) different⟩
      · rfl
  stack := stack
  futures := futures
  completions := completions
  routing routingData isEntry := by
    rw [isBroadcasts] at isEntry
    rcases leaves with rfl | ⟨left, rfl, own⟩
    · exact .inl isEntry
    · rw [Function.update_apply] at isEntry
      split at isEntry
      · cases isEntry
      · exact .inl isEntry

theorem Kept.stay (kept : Kept s) (found : s.managers m = some manager) (key : manager'.routingData = manager.routingData)
    (managers : s'.managers = Function.update s.managers m (some manager'))
    (rest : s'.nextManager = s.nextManager ∧ s'.broadcasts = s.broadcasts ∧ s'.isDestroyed = s.isDestroyed ∧
      s'.erasures = s.erasures)
    (nodup : s'.stack.Nodup) (others : ∀ other, other ≠ m → (other ∈ s'.stack ↔ other ∈ s.stack))
    (futures : ∀ future other : Nat, other ≠ m → (s'.futures[future]? = some other ↔ s.futures[future]? = some other))
    (completions : ∃ more, s'.completions = s.completions ++ more ∧ ∀ completion ∈ more, completion.manager = m)
    (managed : Managed s' m manager') : Kept s' := by
  obtain ⟨nextManager, broadcasts, isDestroyed, erasures⟩ := rest
  have touches : Touches m s s' := by
    refine touches_of_own (.inl rfl) (fun other different => ?_) isDestroyed broadcasts others futures completions
    rw [managers, Function.update_of_ne different]
  have found' : s'.managers m = some manager' := by rw [managers, Function.update_self]
  refine kept.touch touches found' managed ?_ (Nat.le_of_eq nextManager.symm) ?_ nodup ?_
  · rw [nextManager]
    exact kept.lt_nextManager found
  · intro routingData isEntry
    rw [broadcasts] at isEntry
    exact key.trans (kept.keyed found isEntry)
  · rw [erasures]
    exact kept.own

theorem Kept.leave (kept : Kept s) (found : s.managers m = some manager) (key : manager'.routingData = manager.routingData)
    (own : ∀ other ∈ s.broadcasts manager.routingData, other = m)
    (settled : manager'.stage.isGuarded = false → manager'.sharedPromise = []) {stack : List Nat} (nodup : stack.Nodup)
    (others : ∀ other, other ≠ m → (other ∈ stack ↔ other ∈ s.stack))
    (managed : ∀ destroyed, Managed
      { s with broadcasts := Function.update s.broadcasts manager.routingData none, stack := stack } m
      { manager' with destroyed := destroyed }) :
    ∃ s' destroyed, ({ s with stack := stack }.setManager m manager').deleteBroadcast m manager'.routingData = s' ∧ Kept s' ∧
      s'.managers m = some { manager' with destroyed := destroyed } ∧ s'.stack = stack := by
  have own' : ∀ other ∈ s.broadcasts manager'.routingData, other = m := key ▸ own
  have isManager : ({ s with stack := stack }.setManager m manager').managers m = some manager' := Function.update_self ..
  obtain ⟨destroyed, erasures, left, isOwn⟩ := deleteBroadcast_own isManager own' settled
  refine ⟨_, destroyed, left, ?_, Function.update_self .., rfl⟩
  have touches : Touches m s
      { { s with stack := stack }.setManager m manager' with
        managers := Function.update ({ s with stack := stack }.setManager m manager').managers m
          (some { manager' with destroyed := destroyed })
        broadcasts := Function.update s.broadcasts manager'.routingData none
        erasures := s.erasures ++ erasures } := by
    refine touches_of_own (.inr ⟨_, rfl, own'⟩) (fun other different => ?_) rfl rfl others
      (fun _ _ _ => Iff.rfl) ⟨[], (List.append_nil _).symm, nofun⟩
    simp [BroadcastPool.setManager, Function.update_of_ne different]
  refine kept.touch touches (Function.update_self ..) ?_ (kept.lt_nextManager found) (Nat.le_refl _) ?_ nodup ?_
  · refine (managed destroyed).of_eq ?_ rfl rfl rfl rfl
    rw [key]
    rfl
  · intro routingData isEntry
    change Function.update s.broadcasts manager'.routingData none routingData = some m at isEntry
    rw [Function.update_apply] at isEntry
    split at isEntry
    · cases isEntry
    · exact key.trans (kept.keyed found isEntry)
  · intro erasure member
    rcases List.mem_append.mp member with old | new
    · exact kept.own erasure old
    · rw [isOwn erasure new]

theorem Kept.fail (kept : Kept s) (found : s.managers m = some manager) (undecided : manager.stage.outcome? = none)
    (own : ∀ other ∈ s.broadcasts manager.routingData, other = m) {stack : List Nat} (top : m ∈ stack) (nodup : stack.Nodup)
    (others : ∀ other, other ≠ m → (other ∈ stack ↔ other ∈ s.stack)) {outcome : Outcome} (failed : outcome ≠ .handler)
    {futures : List Nat} {caller : Option Nat} (owes : futures ++ caller.toList = pending manager) (guarded : Bool) :
    Kept (({ s with stack := stack }.setManager m
      { manager with stage := .completing outcome futures guarded caller, sharedPromise := [] }).deleteBroadcast m
        manager.routingData) := by
  have managed := kept.managed m manager found
  have gone : Function.update s.broadcasts manager.routingData none manager.routingData = none := Function.update_self ..
  have same (destroyed : Bool) : pending { manager with
      stage := .completing outcome futures guarded caller, sharedPromise := [], destroyed := destroyed } = pending manager :=
    owes
  obtain ⟨s', destroyed, left, kept', _⟩ := @Kept.leave _ s m manager
    { manager with stage := .completing outcome futures guarded caller, sharedPromise := [] } _ kept found rfl own
    (fun _ => rfl) stack nodup others fun destroyed => {
      pooled := ⟨fun isEntry => (nomatch gone.symm.trans isEntry), fun isPooled => absurd (isPooled.2.2 outcome rfl) failed⟩
      waiting := nofun
      active := ⟨fun _ => rfl, fun _ => top⟩
      routing := nofun
      opened := fun isHandler => absurd (Option.some.inj isHandler) failed
      direct := by
        rintro _ _ _ ⟨⟩
        exact absurd rfl failed
      decided := fun _ => rfl
      accounts := fun future => by
        rw [same]
        exact managed.accounts future
      answered := fun completion member isOwn => (managed.unanswered undecided member isOwn).elim }
  rw [← left] at kept'
  exact kept'

theorem Kept.deletePipeline (kept : Kept s) (found : s.managers m = some manager) (connected : manager.stage ≠ .connecting)
    (closable : manager.deletingBroadcast = false → Closable s m manager) :
    Remains m manager.stage s.stack (s.deletePipeline m manager) := by
  have managed := kept.managed m manager found
  have gone : Function.update s.broadcasts manager.routingData none manager.routingData = none := Function.update_self ..
  rw [BroadcastPool.deletePipeline]
  split
  · exact kept.remains found
  · rename_i going
    obtain ⟨own, delivered⟩ := closable (by simpa using going)
    have settled : manager.stage.isGuarded = false → manager.sharedPromise = [] := by
      intro unguarded
      cases stage : manager.stage with
      | connecting => exact absurd stage connected
      | settingRoutingData caller =>
          rw [stage] at unguarded
          cases unguarded
      | completing | completed => exact managed.settled (by rw [stage]; rfl)
    obtain ⟨s', destroyed, left, kept', isManager, isStack⟩ := @Kept.leave _ s m manager
      { manager with deletingBroadcast := true } _ kept found rfl own settled s.stack kept.stacked.1 (fun _ _ => Iff.rfl)
      fun destroyed => {
        pooled := ⟨fun isEntry => (nomatch gone.symm.trans isEntry), fun isPooled => (nomatch isPooled.2.1)⟩
        waiting := fun isConnecting => absurd isConnecting connected
        active := managed.active
        routing := fun caller isRouting =>
          ⟨(managed.routing caller isRouting).1, fun other isEntry => (nomatch gone.symm.trans isEntry)⟩
        opened := fun isHandler isOwed => absurd (delivered isHandler) isOwed
        direct := managed.direct
        decided := managed.decided
        accounts := managed.accounts
        answered := managed.answered }
    rw [← left] at kept' isManager isStack
    exact ⟨kept', isStack, _, isManager, rfl⟩

theorem Kept.closeIfIdle (kept : Kept s) (found : s.managers m = some manager) (connected : manager.stage ≠ .connecting)
    (closable : manager.subscribers = 0 → manager.deletingBroadcast = false → Closable s m manager) :
    Remains m manager.stage s.stack (s.closeIfIdle m manager) := by
  rw [BroadcastPool.closeIfIdle]
  split
  · rename_i idle
    exact kept.deletePipeline found connected (closable idle)
  · exact kept.remains found

end

end Wangle.Proof.Channel
