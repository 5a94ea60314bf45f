import Wangle.Client.Destruction
import Wangle.Proof.Client.GivingUp

/-!
# When the destructor returns

If there are any retries, then each iteration after the last update stores the contents, or uses one of them up, or
gives up, and after the first or the third of these the loop ends. Without retries the failures are counted past the
limit.
-/

namespace Wangle.Proof.Client
open Wangle.Client LRUPersistentCache
open Wangle.Transition hiding run

variable {K V : Type} {s s' : LRUPersistentCache K V} {goesOn : Bool}

def Current (s : LRUPersistentCache K V) : Syncer K V → Prop
  | .waiting => True
  | .picked p => p = s.persistence
  | .changed p | .failed p _ => s.persistence = some p
  | .converted p _ version | .persisted p version | .givingUp p version =>
      s.persistence = some p ∧ version = s.cache.version

instance (s : LRUPersistentCache K V) : DecidablePred (Current s)
  | .waiting => isTrue trivial
  | .picked _ => inferInstanceAs (Decidable (_ = _))
  | .changed _ | .failed .. => inferInstanceAs (Decidable (_ = _))
  | .converted .. | .persisted .. | .givingUp .. => inferInstanceAs (Decidable (_ ∧ _))

def retriesLeft (s : LRUPersistentCache K V) : Nat := s.nSyncRetries.toNat - s.nSyncFailures

def upcoming (s : LRUPersistentCache K V) (goesOn : Bool) : Nat :=
  if Current s s.syncer then
    match s.syncer with
    | .waiting => if s.hasPendingUpdates then retriesLeft s + 1 else 1
    | .picked _ => if s.hasPendingUpdates then retriesLeft s else if goesOn then 1 else 0
    | .changed _ | .converted .. | .failed .. => retriesLeft s
    | .persisted .. | .givingUp .. => 1
  else s.nSyncRetries.toNat + 1

def ahead (goesOn : Bool) : Syncer K V → Nat
  | .waiting => 0
  | .picked _ => if goesOn then 6 else 7
  | .changed _ => 5
  | .converted .. => 4
  | .persisted .. | .failed .. => 3
  | .givingUp .. => 2

structure Retrying (s : LRUPersistentCache K V) : Prop where
  positive : 0 < s.nSyncRetries
  below : (∀ p version, s.syncer ≠ .givingUp p version) → s.nSyncFailures < s.nSyncRetries

theorem upcoming_le (retrying : Retrying s) (goesOn : Bool) : upcoming s goesOn ≤ s.nSyncRetries.toNat + 1 := by
  have positive := retrying.positive
  unfold upcoming retriesLeft
  split
  · split <;> first | omega | (split <;> first | omega | (split <;> omega))
  · exact Nat.le_refl _

theorem upcoming_waiting (place : s.syncer = .waiting) :
    upcoming s goesOn = if s.hasPendingUpdates then retriesLeft s + 1 else 1 := by
  simp [upcoming, place, Current]

theorem upcoming_picked {p : Option Nat} (place : s.syncer = .picked p) (current : p = s.persistence) :
    upcoming s goesOn = if s.hasPendingUpdates then retriesLeft s else if goesOn then 1 else 0 := by
  simp [upcoming, place, Current, current]

theorem hasPendingUpdates_of_current {p : Nat} (here : s.persistence = some p)
    (current : (s.persistences p).persistedVersion = s.cache.version) : s.hasPendingUpdates = false := by
  simp [hasPendingUpdates, here, LRUInMemoryCache.hasChangedSince, current]

theorem hasPendingUpdates_of_changed {p : Nat} (here : s.persistence = some p)
    (changed : s.cache.version ≠ (s.persistences p).persistedVersion) : s.hasPendingUpdates = true := by
  simp [hasPendingUpdates, here, LRUInMemoryCache.hasChangedSince, changed]

theorem upcoming_le_of_current (retrying' : Retrying s') (retries : s'.nSyncRetries = s.nSyncRetries)
    (fewer : Current s s.syncer → upcoming s' goesOn ≤ upcoming s goesOn) : upcoming s' goesOn ≤ upcoming s goesOn := by
  by_cases current : Current s s.syncer
  · exact fewer current
  · have beyond : upcoming s goesOn = s.nSyncRetries.toNat + 1 := by rw [upcoming, if_neg current]
    rw [beyond, ← retries]
    exact upcoming_le retrying' goesOn

theorem upcoming_recorded (retrying : Retrying s) {p version : Nat}
    (one : Current s s.syncer → s.persistence = some p ∧ version = s.cache.version ∧ upcoming s goesOn = 1)
    (events : List SyncEvent) (gaveUp : Bool) :
    upcoming { (s.setPersistedVersion p version).synced with events, gaveUp } goesOn ≤ upcoming s goesOn := by
  refine upcoming_le_of_current ⟨retrying.positive, fun _ => retrying.positive⟩ rfl fun current => ?_
  obtain ⟨here, same, isOne⟩ := one current
  have recorded : ({ (s.setPersistedVersion p version).synced with events, gaveUp } :
      LRUPersistentCache K V).hasPendingUpdates = false := by
    refine hasPendingUpdates_of_current (p := p) here ?_
    simp [setPersistedVersion, synced, LRUPersistentCache.set, same]
  rw [upcoming_waiting rfl, recorded, isOne]
  exact Nat.le_refl _

theorem SyncStep.retrying {op : LRUPersistentCache.Op K V} (retrying : Retrying s) (stepped : SyncStep s op s') :
    Retrying s' := by
  have below (place : ∀ p version, s.syncer ≠ .givingUp p version) := retrying.below place
  cases stepped with
  | idle | record | giveUp => exact ⟨retrying.positive, fun _ => retrying.positive⟩
  | retry p attempt place further =>
      have bound := below (by simp [place])
      refine ⟨retrying.positive, fun _ => ?_⟩
      simp only [Int.natCast_add, Int.natCast_one]
      omega
  | exhausted p attempt place last => exact ⟨retrying.positive, fun other => absurd rfl (other p s.cache.version)⟩
  | pick place | changed _ place | converted _ place | unconverted _ place | stored _ _ _ place | failed _ _ _ place =>
      exact ⟨retrying.positive, fun _ => below (by simp [place])⟩

theorem SyncStep.nSyncRetries_eq {op : LRUPersistentCache.Op K V} (stepped : SyncStep s op s') :
    s'.nSyncRetries = s.nSyncRetries := by
  cases stepped <;> rfl

theorem SyncStep.upcoming_le {op : LRUPersistentCache.Op K V} (retrying : Retrying s) (stepped : SyncStep s op s')
    (within : op ≠ .pick) (tested : op = .test → goesOn = true) :
    upcoming s' goesOn ≤ upcoming s goesOn ∧ ahead goesOn s'.syncer < ahead goesOn s.syncer := by
  have retrying' := stepped.retrying retrying
  have below (place : ∀ p version, s.syncer ≠ .givingUp p version) : 0 < retriesLeft s := by
    have bound := retrying.below place
    unfold retriesLeft
    omega
  cases stepped with
  | pick place => exact absurd rfl within
  | idle p place unchanged =>
      refine ⟨upcoming_le_of_current retrying' rfl fun current => ?_, by simp [synced, place, ahead, tested rfl]⟩
      rw [place] at current
      have none : s.hasPendingUpdates = false := by
        cases here : s.persistence with
        | none => simp [hasPendingUpdates, here]
        | some q => exact hasPendingUpdates_of_current here (unchanged q (current.trans here)).symm
      have none' : s.synced.hasPendingUpdates = false := none
      rw [upcoming_waiting rfl, none', upcoming_picked place current, none, tested rfl]
      exact Nat.le_refl _
  | changed p place pending =>
      refine ⟨upcoming_le_of_current retrying' rfl fun current => ?_, by simp [place, ahead, tested rfl]⟩
      rw [place] at current
      have here : s.persistence = some p := current.symm
      rw [upcoming_picked place current, hasPendingUpdates_of_changed here pending]
      simp [upcoming, Current, here, retriesLeft]
  | converted p place =>
      refine ⟨upcoming_le_of_current retrying' rfl fun current => ?_, by simp [place, ahead]⟩
      rw [place] at current
      have here : s.persistence = some p := current
      simp [upcoming, place, Current, here, retriesLeft]
  | unconverted p place =>
      refine ⟨upcoming_le_of_current retrying' rfl fun current => ?_, by simp [place, ahead]⟩
      rw [place] at current
      have here : s.persistence = some p := current
      simp [upcoming, place, Current, here, retriesLeft]
  | stored p kvPairs version place =>
      refine ⟨upcoming_le_of_current retrying' rfl fun current => ?_, by simp [place, ahead]⟩
      rw [place] at current
      have some := below (by simp [place])
      obtain ⟨here, same⟩ : s.persistence = .some p ∧ version = s.cache.version := current
      simp only [upcoming, place, Current, LRUPersistentCache.set, here, same, and_self, if_true]
      exact some
  | failed p kvPairs version place data =>
      refine ⟨upcoming_le_of_current retrying' rfl fun current => ?_, by simp [place, ahead]⟩
      rw [place] at current
      have here : s.persistence = some p := current.1
      simp [upcoming, place, Current, here, current.2, retriesLeft, LRUPersistentCache.set]
  | record p version place =>
      refine ⟨upcoming_recorded retrying (fun current => ?_) _ _, by simp [synced, place, ahead]⟩
      rw [place] at current
      exact ⟨current.1, current.2, by simp [upcoming, place, current]⟩
  | retry p attempt place further =>
      refine ⟨upcoming_le_of_current retrying' rfl fun current => ?_, by simp [place, ahead]⟩
      have here : s.persistence = some p := by rwa [place] at current
      have some := below (by simp [place])
      have now : upcoming s goesOn = retriesLeft s := by simp [upcoming, place, Current, here]
      have fewer : retriesLeft { s with nSyncFailures := s.nSyncFailures + 1, syncer := .waiting } = retriesLeft s - 1 := by
        simp only [retriesLeft]
        omega
      rw [upcoming_waiting rfl, now, fewer]
      split <;> omega
  | exhausted p attempt place last =>
      refine ⟨upcoming_le_of_current retrying' rfl fun current => ?_, by simp [place, ahead]⟩
      have here : s.persistence = some p := by rwa [place] at current
      have some := below (by simp [place])
      simp only [upcoming, place, Current, here, and_self, if_true]
      exact some
  | giveUp p version place =>
      refine ⟨upcoming_recorded retrying (fun current => ?_) _ _, by simp [synced, place, ahead]⟩
      rw [place] at current
      exact ⟨current.1, current.2, by simp [upcoming, place, current]⟩

theorem upcoming_pick (place : s.syncer = .waiting) (goesOn : Bool) :
    upcoming { s with syncer := .picked s.persistence } false + 1 = upcoming s goesOn := by
  have same : ({ s with syncer := .picked s.persistence } : LRUPersistentCache K V).hasPendingUpdates =
      s.hasPendingUpdates := rfl
  rw [upcoming_waiting place, upcoming_picked rfl rfl, same]
  cases s.hasPendingUpdates with
  | true => rfl
  | false => rfl

theorem upcoming_congr (retries : s'.nSyncRetries = s.nSyncRetries) (failures : s'.nSyncFailures = s.nSyncFailures)
    (syncer : s'.syncer = s.syncer) (persistence : s'.persistence = s.persistence)
    (version : s'.cache.version = s.cache.version)
    (persisted : ∀ p, (s'.persistences p).persistedVersion = (s.persistences p).persistedVersion) :
    upcoming s' goesOn = upcoming s goesOn := by
  have pending : s'.hasPendingUpdates = s.hasPendingUpdates := by
    simp only [hasPendingUpdates, LRUInMemoryCache.hasChangedSince, persistence, version, persisted]
  have current (place : Syncer K V) : Current s' place ↔ Current s place := by
    cases place <;> simp only [Current, persistence, version]
  simp only [upcoming, retriesLeft, syncer, pending, current, retries, failures]

def Quiet : Destruction.Op K V → Prop
  | .cache (.get _) | .cache .clearPick | .cache (.clearPersistence _) => True
  | _ => False

def Own : Destruction.Op K V → Prop
  | .cache op => Destruction.bySyncer op = true
  | .testStopped => True
  | .stop => False

section destruction
variable {d d' : Destruction K V}

def remainingIterations (d : Destruction K V) : Nat := if d.returned then 0 else upcoming d.cache d.goesOn

inductive LoopStep (d : Destruction K V) : Destruction K V → Prop
  | returns : LoopStep d { d with returned := true }
  | goesOn (p : Nat) (place : d.cache.syncer = .picked (some p)) (untested : d.goesOn = false)
      (pending : d.cache.cache.version ≠ (d.cache.persistences p).persistedVersion) : LoopStep d { d with goesOn := true }
  | pick (place : d.cache.syncer = .waiting) :
      LoopStep d { d with
        cache := { d.cache with syncer := .picked d.cache.persistence }, goesOn := false, iterations := d.iterations + 1 }
  | sync (op : LRUPersistentCache.Op K V) (cache : LRUPersistentCache K V) (stepped : SyncStep d.cache op cache)
      (within : op ≠ .pick) (tested : op = .test → d.goesOn = true) : LoopStep d { d with cache }

def rank (d : Destruction K V) : Nat := 8 * upcoming d.cache d.goesOn + ahead d.goesOn d.cache.syncer

theorem LoopStep.spends (retrying : Retrying d.cache) (going : d.returned = false) (stepped : LoopStep d d') :
    d'.iterations + remainingIterations d' ≤ d.iterations + remainingIterations d ∧
      (d'.returned = true ∨ d'.returned = false ∧ rank d' < rank d) := by
  have kept {e : Destruction K V} (goes : e.returned = false)
      (fewer : e.iterations + upcoming e.cache e.goesOn ≤ d.iterations + upcoming d.cache d.goesOn) :
      e.iterations + remainingIterations e ≤ d.iterations + remainingIterations d := by
    simpa [remainingIterations, goes, going] using fewer
  cases stepped with
  | returns => exact ⟨Nat.add_le_add_left (Nat.zero_le _) _, .inl rfl⟩
  | goesOn p place untested pending =>
      have same : upcoming d.cache true = upcoming d.cache d.goesOn := by
        by_cases current : some p = d.cache.persistence
        · rw [upcoming_picked place current, upcoming_picked place current,
            hasPendingUpdates_of_changed current.symm pending]
          rfl
        · simp [upcoming, place, Current, current]
      refine ⟨kept going (Nat.add_le_add_left (Nat.le_of_eq same) _), .inr ⟨going, ?_⟩⟩
      simp only [rank, same]
      simp [place, untested, ahead]
  | pick place =>
      have fewer := upcoming_pick place d.goesOn
      refine ⟨kept going ?_, .inr ⟨going, ?_⟩⟩
      · dsimp only
        omega
      · simp only [rank, ahead]
        simp only [Bool.false_eq_true, if_false]
        omega
  | sync op cache stepped within tested =>
      obtain ⟨fewer, nearer⟩ := stepped.upcoming_le retrying within tested
      refine ⟨kept going (Nat.add_le_add_left fewer _), .inr ⟨going, ?_⟩⟩
      simp only [rank]
      omega

theorem LoopStep.retrying (retrying : Retrying d.cache) (stepped : LoopStep d d') : Retrying d'.cache := by
  cases stepped with
  | returns => exact retrying
  | goesOn p place untested pending => exact retrying
  | pick place => exact SyncStep.retrying retrying (.pick place)
  | sync op cache stepped within tested => exact stepped.retrying retrying

theorem syncing_of_bySyncer {op : LRUPersistentCache.Op K V} (bySyncer : Destruction.bySyncer op = true) : Syncing op := by
  cases op with
  | pick | test | convert | persist | record | count | giveUp => trivial
  | get | put | remove | setPersistence | clear | clearPick | clearPersistence => cases bySyncer

theorem testStopped_step (stopped : d.stopSyncer = true) (taken : d.testStopped = .ok d') :
    d.returned = false ∧ d'.stopSyncer = true ∧ LoopStep d d' := by
  unfold Destruction.testStopped at taken
  split at taken
  · rename_i persistence place
    split at taken
    · cases taken
    · rename_i may
      have untested : d.returned = false ∧ d.goesOn = false := by simpa [stopped] using may
      cases persistence with
      | none =>
          cases taken
          exact ⟨untested.1, stopped, .returns⟩
      | some p =>
          simp only [Option.any_some] at taken
          split at taken
          · rename_i pending
            cases taken
            exact ⟨untested.1, stopped, .goesOn p place untested.2
              (by simpa [LRUInMemoryCache.hasChangedSince] using pending)⟩
          · cases taken
            exact ⟨untested.1, stopped, .returns⟩
  · cases taken

theorem byClient_of_quiet {op : LRUPersistentCache.Op K V} (quiet : Quiet (.cache op)) :
    ByClient op ∧ Destruction.bySyncer op = false := by
  cases op with
  | get | clearPick | clearPersistence => exact ⟨trivial, rfl⟩
  | _ => exact quiet.elim

theorem ahead_le (goesOn : Bool) (syncer : Syncer K V) : ahead goesOn syncer ≤ 7 := by
  cases syncer <;> simp only [ahead] <;> first | omega | (split <;> omega)

variable [DecidableEq K]

theorem step_cache {op : LRUPersistentCache.Op K V} (notPick : op ≠ .pick) (notTest : op ≠ .test) :
    d.step (.cache op) =
      if d.returned && Destruction.bySyncer op then .error .notEnabled
      else (d.cache.step op).map fun cache => { d with cache } := by
  cases op with
  | pick => exact absurd rfl notPick
  | test => exact absurd rfl notTest
  | _ => rfl

structure CacheStep (d : Destruction K V) (op : LRUPersistentCache.Op K V) (d' : Destruction K V) : Prop where
  taken : d.cache.step op = .ok d'.cache
  going : Destruction.bySyncer op = true → d.returned = false
  tested : op = .test → d.stopSyncer = true → d.goesOn = true
  picked : op = .pick → d' = { d with
    cache := d'.cache, goesOn := false, iterations := if d.stopSyncer then d.iterations + 1 else d.iterations }
  kept : op ≠ .pick → d' = { d with cache := d'.cache }

theorem cache_step {op : LRUPersistentCache.Op K V} (taken : d.step (.cache op) = .ok d') : CacheStep d op d' := by
  by_cases isPick : op = .pick
  · subst isPick
    simp only [Destruction.step] at taken
    by_cases returned : d.returned = true
    · rw [if_pos returned] at taken
      cases taken
    · rw [if_neg returned] at taken
      obtain ⟨cache, moved, rfl⟩ := map_eq_ok.mp taken
      exact ⟨moved, fun _ => by simpa using returned, (fun isTest => by cases isTest), fun _ => rfl,
        fun other => absurd rfl other⟩
  · by_cases isTest : op = .test
    · subst isTest
      simp only [Destruction.step] at taken
      split at taken
      · cases taken
      · rename_i may
        rw [Bool.or_eq_true, not_or] at may
        obtain ⟨cache, moved, rfl⟩ := map_eq_ok.mp taken
        refine ⟨moved, fun _ => by simpa using may.1, fun _ stopped => ?_, (fun isPick => by cases isPick), fun _ => rfl⟩
        simpa [stopped] using may.2
    · rw [step_cache isPick isTest] at taken
      split at taken
      · cases taken
      · rename_i may
        obtain ⟨cache, moved, rfl⟩ := map_eq_ok.mp taken
        refine ⟨moved, fun bySyncer => ?_, fun other => absurd other isTest, fun other => absurd other isPick, fun _ => rfl⟩
        simpa [bySyncer] using may

theorem CacheStep.loopStep {op : LRUPersistentCache.Op K V} (stepped : CacheStep d op d')
    (bySyncer : Destruction.bySyncer op = true) (stopped : d.stopSyncer = true) :
    d'.stopSyncer = true ∧ LoopStep d d' := by
  have syncing := syncing_step (syncing_of_bySyncer bySyncer) stepped.taken
  by_cases isPick : op = .pick
  · subst isPick
    rw [stepped.picked rfl, if_pos stopped]
    refine ⟨stopped, ?_⟩
    generalize d'.cache = cache at syncing
    cases syncing with
    | pick place => exact .pick place
  · rw [stepped.kept isPick]
    exact ⟨stopped, .sync op d'.cache syncing isPick fun isTest => stepped.tested isTest stopped⟩

theorem own_step {op : Destruction.Op K V} (own : Own op) (stopped : d.stopSyncer = true) (taken : d.step op = .ok d') :
    d.returned = false ∧ d'.stopSyncer = true ∧ LoopStep d d' := by
  cases op with
  | stop => exact own.elim
  | testStopped => exact testStopped_step stopped taken
  | cache op => exact ⟨(cache_step taken).going own, (cache_step taken).loopStep own stopped⟩

theorem client_keeps {op : LRUPersistentCache.Op K V} (client : Destruction.bySyncer op = false)
    (taken : s.step op = .ok s') :
    s'.syncer = s.syncer ∧ s'.nSyncFailures = s.nSyncFailures ∧ s'.nSyncRetries = s.nSyncRetries := by
  have inMemory (client : InMemory op) :
      s'.syncer = s.syncer ∧ s'.nSyncFailures = s.nSyncFailures ∧ s'.nSyncRetries = s.nSyncRetries := by
    obtain ⟨cache, clearing, clears, -, rfl⟩ := inMemory_step client taken
    exact ⟨rfl, rfl, rfl⟩
  cases op with
  | get | put | remove | clear | clearPick => exact inMemory trivial
  | setPersistence persistence =>
      cases taken
      cases persistence with
      | none => exact ⟨rfl, rfl, rfl⟩
      | some stored =>
          obtain ⟨cache, -, replaced⟩ := setPersistence_eq (s := s) stored
          rw [replaced]
          exact ⟨rfl, rfl, rfl⟩
  | clearPersistence p =>
      simp only [step] at taken
      split at taken <;> cases taken
      exact ⟨rfl, rfl, rfl⟩
  | pick | test | convert | persist | record | count | giveUp => cases client

theorem cache_retrying {op : LRUPersistentCache.Op K V} (retrying : Retrying s) (taken : s.step op = .ok s') :
    Retrying s' ∧ s'.nSyncRetries = s.nSyncRetries := by
  cases bySyncer : Destruction.bySyncer op with
  | true =>
      have stepped := syncing_step (syncing_of_bySyncer bySyncer) taken
      exact ⟨stepped.retrying retrying, stepped.nSyncRetries_eq⟩
  | false =>
      obtain ⟨syncer, failures, retries⟩ := client_keeps bySyncer taken
      refine ⟨⟨retries ▸ retrying.positive, fun place => ?_⟩, retries⟩
      rw [failures, retries]
      exact retrying.below (syncer ▸ place)

theorem step_retrying {op : Destruction.Op K V} (retrying : Retrying d.cache) (taken : d.step op = .ok d') :
    Retrying d'.cache ∧ d'.cache.nSyncRetries = d.cache.nSyncRetries := by
  cases op with
  | cache op => exact cache_retrying retrying (cache_step taken).taken
  | stop =>
      simp only [Destruction.step] at taken
      split at taken <;> cases taken
      exact ⟨retrying, rfl⟩
  | testStopped =>
      simp only [Destruction.step, Destruction.testStopped] at taken
      split at taken
      · split at taken
        · cases taken
        · split at taken <;> cases taken
          · exact ⟨retrying, rfl⟩
          · exact ⟨retrying, rfl⟩
      · cases taken

theorem quiet_version {op : LRUPersistentCache.Op K V} (quiet : Quiet (.cache op)) (taken : s.step op = .ok s') :
    s'.cache.version = s.cache.version := by
  cases op with
  | get k =>
      cases taken
      rfl
  | clearPick =>
      simp only [step] at taken
      split at taken <;> cases taken
      rfl
  | clearPersistence p =>
      simp only [step] at taken
      split at taken <;> cases taken
      rfl
  | _ => exact quiet.elim

theorem quiet_step {op : Destruction.Op K V} (quiet : Quiet op) (taken : d.step op = .ok d') :
    ∃ cache, d' = { d with cache } ∧ cache.syncer = d.cache.syncer ∧
      ∀ goesOn, upcoming cache goesOn = upcoming d.cache goesOn := by
  match op with
  | .cache op =>
      have stepped := cache_step taken
      obtain ⟨byClient, notSyncer⟩ := byClient_of_quiet quiet
      have notPick : op ≠ .pick := by
        rintro rfl
        cases notSyncer
      obtain ⟨syncer, failures, retries⟩ := client_keeps notSyncer stepped.taken
      obtain ⟨-, -, -, persistence, persisted⟩ := client_step byClient stepped.taken
      refine ⟨d'.cache, stepped.kept notPick, syncer, fun goesOn => ?_⟩
      exact upcoming_congr retries failures syncer persistence (quiet_version quiet stepped.taken) persisted
  | .stop => exact quiet.elim
  | .testStopped => exact quiet.elim

theorem cache_enabled {op : LRUPersistentCache.Op K V} {cache : LRUPersistentCache K V} (going : d.returned = false)
    (tested : op = .test → d.goesOn = true) (taken : d.cache.step op = .ok cache) :
    ∃ d', d.step (.cache op) = .ok d' := by
  by_cases isPick : op = .pick
  · subst isPick
    simp only [Destruction.step, going, taken]
    exact ⟨_, rfl⟩
  · by_cases isTest : op = .test
    · simp only [isTest, Destruction.step, going, tested isTest, Bool.not_true, Bool.and_false, Bool.or_self]
      rw [← isTest, taken]
      exact ⟨_, rfl⟩
    · rw [step_cache isPick isTest, going, taken]
      exact ⟨_, rfl⟩

theorem own_enabled (stopped : d.stopSyncer = true) (going : d.returned = false) : ∃ op d', Own op ∧ d.step op = .ok d' := by
  obtain ⟨op, cache, syncing, taken⟩ := syncing_enabled d.cache
  by_cases untested : op = .test ∧ d.goesOn = false
  · obtain ⟨rfl, notYet⟩ := untested
    obtain ⟨p, place⟩ : ∃ p, d.cache.syncer = .picked p := by
      cases syncing_step syncing taken with
      | idle p place unchanged => exact ⟨p, place⟩
      | changed p place pending => exact ⟨some p, place⟩
    refine ⟨.testStopped, ?_⟩
    simp only [Destruction.step, Destruction.testStopped, place, stopped, going, notYet]
    split
    · contradiction
    · split
      · exact ⟨_, trivial, rfl⟩
      · exact ⟨_, trivial, rfl⟩
  · obtain ⟨d', done⟩ := cache_enabled going (fun isTest => by simpa [isTest] using untested) taken
    refine ⟨.cache op, d', ?_, done⟩
    cases op with
    | pick | test | convert | persist | record | count | giveUp => rfl
    | _ => exact syncing.elim

structure Stopping (d : Destruction K V) : Prop where
  stopped : d.stopSyncer = true
  retrying : Retrying d.cache

theorem stopping_step {op : Destruction.Op K V} (stopping : Stopping d) (quiet : Quiet op ∨ Own op)
    (taken : d.step op = .ok d') :
    Stopping d' ∧ d'.iterations + remainingIterations d' ≤ d.iterations + remainingIterations d := by
  have retrying := (step_retrying stopping.retrying taken).1
  rcases quiet with quiet | own
  · obtain ⟨cache, rfl, -, same⟩ := quiet_step quiet taken
    refine ⟨⟨stopping.stopped, retrying⟩, Nat.le_of_eq ?_⟩
    simp only [remainingIterations, same]
  · obtain ⟨going, stopped, stepped⟩ := own_step own stopping.stopped taken
    exact ⟨⟨stopped, retrying⟩, (stepped.spends stopping.retrying going).1⟩

theorem stopping_run {ops : List (Destruction.Op K V)} (stopping : Stopping d) (quiet : ∀ op ∈ ops, Quiet op ∨ Own op)
    (done : d.run ops = .ok d') : d'.iterations ≤ d.iterations + remainingIterations d := by
  have spent := run_invariant
    (I := fun e => Stopping e ∧ e.iterations + remainingIterations e ≤ d.iterations + remainingIterations d)
    (fun e op e' holds permitted taken => ?_) ⟨stopping, Nat.le_refl _⟩ (along_and (along_true d ops) quiet) done
  · exact Nat.le_trans (Nat.le_add_right _ _) spent.2
  · obtain ⟨stopping', fewer⟩ := stopping_step holds.1 permitted.2 taken
    exact ⟨stopping', Nat.le_trans fewer holds.2⟩

theorem stopping_leads (stopping : Stopping d) :
    Leads Destruction.step Quiet Own (fun _ _ => True) (fun d => d.returned = true)
      (8 * (d.cache.nSyncRetries.toNat + 2)) d := by
  cases returned : d.returned with
  | true => exact leads_of_reached (Q := fun e : Destruction K V => e.returned = true) returned _
  | false =>
      refine leads_of_rank (I := fun e => Stopping e ∧ e.returned = false) rank ?_ ?_ ?_ ⟨stopping, returned⟩ ?_
      · intro e op e' holds quiet taken
        have stopping' := (stopping_step holds.1 (.inl quiet) taken).1
        obtain ⟨cache, rfl, syncer, same⟩ := quiet_step quiet taken
        refine ⟨⟨stopping', holds.2⟩, ?_⟩
        simp only [rank, same, syncer]
      · exact fun e holds => own_enabled holds.1.stopped holds.2
      · intro e op e' holds own _ taken
        have stopping' := (stopping_step holds.1 (.inr own) taken).1
        obtain ⟨going, stopped, stepped⟩ := own_step own holds.1.stopped taken
        obtain isReturned | ⟨goes, nearer⟩ := (stepped.spends holds.1.retrying going).2
        · exact .inl isReturned
        · exact .inr ⟨⟨stopping', goes⟩, nearer⟩
      · have bound := upcoming_le stopping.retrying d.goesOn
        have steps := ahead_le d.goesOn d.cache.syncer
        unfold rank
        omega

end destruction

variable [DecidableEq K]

theorem new_retrying (capacity : Nat) {nSyncRetries : Int} (persistence : Option (Option (Dynamic K V)))
    (positive : 0 < nSyncRetries) :
    Retrying (LRUPersistentCache.new capacity nSyncRetries persistence) ∧
      (LRUPersistentCache.new capacity nSyncRetries persistence).nSyncRetries = nSyncRetries := by
  match persistence with
  | none => exact ⟨⟨positive, fun _ => positive⟩, rfl⟩
  | some none =>
      rw [new_unloaded]
      exact ⟨⟨positive, fun _ => positive⟩, rfl⟩
  | some (some data) =>
      rw [new_loaded]
      exact ⟨⟨positive, fun _ => positive⟩, rfl⟩

/-- In every state in which `stopSyncer_` is set: if nothing is updated any more, then at most so many iterations begin,
and the sync thread returns after finitely many steps of its own. -/
def ShutsDown (K V : Type) [DecidableEq K] (nSyncRetries : Int) (bound : Nat) : Prop :=
  ∀ (capacity : Nat) (persistence : Option (Option (Dynamic K V))) (ops : List (Destruction.Op K V)) (d : Destruction K V),
    Destruction.run { cache := .new capacity nSyncRetries persistence } ops = .ok d → d.stopSyncer = true →
    (∀ more d', (∀ op ∈ more, Quiet op ∨ Own op) → d.run more = .ok d' → d'.iterations ≤ d.iterations + bound) ∧
    Leads Destruction.step Quiet Own (fun _ _ => True) (fun d => d.returned = true) (8 * (bound + 1)) d

theorem shutsDown_of_pos {nSyncRetries : Int} (positive : 0 < nSyncRetries) :
    ShutsDown K V nSyncRetries (nSyncRetries.toNat + 1) := by
  intro capacity persistence ops d done stopped
  obtain ⟨retrying, retries⟩ : Retrying d.cache ∧ d.cache.nSyncRetries = nSyncRetries := by
    refine run_invariant_all (I := fun d => Retrying d.cache ∧ d.cache.nSyncRetries = nSyncRetries) ?_
      (new_retrying capacity persistence positive) done
    intro e op e' holds taken
    obtain ⟨retrying, same⟩ := step_retrying holds.1 taken
    exact ⟨retrying, same.trans holds.2⟩
  have stopping : Stopping d := ⟨stopped, retrying⟩
  constructor
  · intro more d' quiet moreDone
    have spent := stopping_run stopping quiet moreDone
    have bound := upcoming_le retrying d.goesOn
    have fewer : remainingIterations d ≤ upcoming d.cache d.goesOn := by
      unfold remainingIterations
      split
      · exact Nat.zero_le _
      · exact Nat.le_refl _
    rw [retries] at bound
    omega
  · have leads := stopping_leads stopping
    rwa [retries] at leads

/-! ## Without retries -/

structure Failing (p : Nat) (d : Destruction K V) : Prop where
  stopped : d.stopSyncer = true
  going : d.returned = false
  waits : d.cache.syncer = .waiting
  here : d.cache.persistence = some p
  pending : d.cache.cache.version ≠ (d.cache.persistences p).persistedVersion
  retries : d.cache.nSyncRetries ≤ 0

def failedIteration : List (Destruction.Op K V) :=
  [.cache .pick, .testStopped, .cache .test, .cache (.convert true), .cache (.persist (.failure none)), .cache .count]

theorem failing_iteration {p : Nat} {d : Destruction K V} (failing : Failing p d) :
    ∃ d', d.run failedIteration = .ok d' ∧ Failing p d' ∧ d'.iterations = d.iterations + 1 := by
  obtain ⟨⟨cache, nSyncRetries, persistences, given, persistence, nSyncFailures, syncer, clearing, clears, events, gaveUp⟩,
    stopSyncer, goesOn, returned, iterations⟩ := d
  obtain ⟨stopped, going, waits, here, pending, retries⟩ := failing
  dsimp only at stopped going waits here pending retries
  subst stopped going waits here
  have uncounted : (nSyncFailures : Int) + 1 ≠ nSyncRetries := by omega
  have done : Ends (fun d => Failing p d ∧ d.iterations = iterations + 1)
      (Destruction.run { cache := ⟨cache, nSyncRetries, persistences, given, some p, nSyncFailures, .waiting, clearing,
        clears, events, gaveUp⟩, stopSyncer := true, goesOn, returned := false, iterations } failedIteration) := by
    simp only [Destruction.run, failedIteration, Transition.run, Destruction.step, Destruction.testStopped,
      LRUPersistentCache.step, LRUInMemoryCache.hasChangedSince, LRUPersistentCache.set]
    simp only [pending, uncounted, Destruction.bySyncer, Except.map, Option.any_some, decide_true, ne_eq, not_false_eq_true,
      if_true, if_false, Bool.false_eq_true, Bool.not_true, Bool.and_false, Bool.or_self, Bool.false_and]
    refine ⟨⟨rfl, rfl, rfl, rfl, ?_, retries⟩, rfl⟩
    simpa using pending
  exact done.exists_ok

theorem failing_run {p : Nat} {d : Destruction K V} (failing : Failing p d) (n : Nat) :
    ∃ ops d', (∀ op ∈ ops, Quiet op ∨ Own op) ∧ d.run ops = .ok d' ∧ Failing p d' ∧ d'.iterations = d.iterations + n := by
  induction n with
  | zero => exact ⟨[], d, by simp, rfl, failing, rfl⟩
  | succ n ih =>
      obtain ⟨ops, e, own, done, failing', iterations⟩ := ih
      obtain ⟨d', last, failing'', one⟩ := failing_iteration failing'
      refine ⟨ops ++ failedIteration, d', fun op member => ?_, run_append.mpr ⟨e, done, last⟩, failing'', ?_⟩
      · obtain earlier | inLast := List.mem_append.mp member
        · exact own op earlier
        · right
          simp only [failedIteration, List.mem_cons, List.not_mem_nil, or_false] at inLast
          rcases inLast with rfl | rfl | rfl | rfl | rfl | rfl <;> trivial
      · rw [one, iterations, Nat.add_assoc]

theorem failing_start (nSyncRetries : Int) (none : nSyncRetries ≤ 0) :
    ∃ d : Destruction K V,
      Destruction.run { cache := .new 0 nSyncRetries .none } [.cache (.setPersistence (some .none)), .stop] = .ok d ∧
        Failing 0 d ∧ d.iterations = 0 :=
  ⟨_, rfl, ⟨rfl, rfl, rfl, rfl, Nat.one_ne_zero, none⟩, rfl⟩

/-- There is a bound on the iterations exactly if there are retries. -/
theorem shutsDown_iff (nSyncRetries : Int) : (∃ bound, ShutsDown K V nSyncRetries bound) ↔ 0 < nSyncRetries := by
  constructor
  · rintro ⟨bound, shutsDown⟩
    refine Int.not_le.mp fun none => ?_
    obtain ⟨d, done, failing, start⟩ := failing_start (K := K) (V := V) nSyncRetries none
    obtain ⟨more, d', own, moreDone, -, iterations⟩ := failing_run failing (bound + 1)
    have bounded := (shutsDown 0 .none _ d done failing.stopped).1 more d' own moreDone
    omega
  · exact fun positive => ⟨_, shutsDown_of_pos positive⟩

/-- Every attempt fails, and the loop goes on. -/
theorem zero_retries_never_stops : ∃ d : Destruction Nat Nat,
    Destruction.run { cache := .new 0 0 none } [.cache (.setPersistence (some none)), .stop] = .ok d ∧
    ∀ n, ∃ more d', (∀ op ∈ more, Quiet op ∨ Own op) ∧ d.run more = .ok d' ∧ d'.returned = false ∧ d'.iterations = n := by
  obtain ⟨d, done, failing, start⟩ := failing_start (K := Nat) (V := Nat) 0 (Int.le_refl 0)
  refine ⟨d, done, fun n => ?_⟩
  obtain ⟨more, d', own, moreDone, failing', iterations⟩ := failing_run failing n
  refine ⟨more, d', own, moreDone, failing'.going, ?_⟩
  rw [iterations, start, Nat.zero_add]

end Wangle.Proof.Client
