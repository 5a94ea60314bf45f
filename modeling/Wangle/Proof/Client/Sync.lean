import Wangle.Proof.Client.RoundTrip

/-!
# What the persisted version says about the stored data

Only the sync thread records a version after the construction. A version that it has found to be out of date stays
out of date until it records the next one, and whatever it stores meanwhile is a snapshot that is not newer than
the cache.
-/

namespace Wangle.Proof.Client
open Wangle.Client Wangle.Recency LRUPersistentCache
open Wangle.Transition hiding run

variable {K V : Type} {s s' : LRUPersistentCache K V}

def Holds (stored : Option (Dynamic K V)) (cache : CacheMap K V) : Prop :=
  (stored.getD []).Perm (cache.entries.map some)

theorem Holds.of_perm {stored : Option (Dynamic K V)} {cache cache' : CacheMap K V} (holds : Holds stored cache)
    (perm : cache'.entries.Perm cache.entries) : Holds stored cache' :=
  List.Perm.trans holds (perm.symm.map some)

def Synced (s : LRUPersistentCache K V) : Prop :=
  ∀ p, s.persistence = some p → (s.persistences p).persistedVersion = s.cache.version →
    Holds (s.persistences p).stored s.cache.cache

def recording (p : Nat) : Syncer K V → Option Nat
  | .persisted q version => if q = p then some version else none
  | _ => none

/-- When the current persistence is cleared, the cache is empty, or its version is neither recorded nor about to be
recorded. -/
def Timely (s : LRUPersistentCache K V) : LRUPersistentCache.Op K V → Prop
  | .clearPersistence p => s.persistence = some p → s.cache.cache.entries.isEmpty ∨
      (s.persistences p).persistedVersion ≠ s.cache.version ∧ recording p s.syncer ≠ some s.cache.version
  | _ => True

instance (s : LRUPersistentCache K V) : DecidablePred (Timely s)
  | .clearPersistence _ => inferInstanceAs (Decidable (_ → _ ∨ _))
  | .get _ | .put .. | .remove _ | .setPersistence _ | .clear _ | .clearPick | .pick | .test | .convert _ | .persist _
  | .record | .count | .giveUp => isTrue trivial

structure Updates (c c' : LRUInMemoryCache K V) : Prop where
  version : c.version ≤ c'.version
  same : c'.version = c.version → c'.cache.entries.Perm c.cache.entries

theorem Updates.refl (c : LRUInMemoryCache K V) : Updates c c := ⟨Nat.le_refl _, fun _ => List.Perm.refl _⟩

theorem Updates.next {c : LRUInMemoryCache K V} {cache : CacheMap K V} :
    Updates c { cache := cache, version := c.version + 1 } :=
  ⟨Nat.le_succ _, fun same => absurd same (Nat.succ_ne_self _)⟩

def target : Syncer K V → Option Nat
  | .waiting => none
  | .picked p => p
  | .changed p | .converted p _ _ | .persisted p _ | .failed p _ | .givingUp p _ => some p

def StandsAt (s : LRUPersistentCache K V) : Syncer K V → Prop
  | .waiting | .picked _ => True
  | .changed p | .failed p _ => (s.persistences p).persistedVersion < s.cache.version
  | .converted p kvPairs version =>
      (s.persistences p).persistedVersion < s.cache.version ∧ version ≤ s.cache.version ∧
        (version = s.cache.version → Holds (some kvPairs) s.cache.cache)
  | .persisted p version =>
      (s.persistences p).persistedVersion < s.cache.version ∧ version ≤ s.cache.version ∧
        (s.persistence = some p → version = s.cache.version → Holds (s.persistences p).stored s.cache.cache)
  | .givingUp _ version => version ≤ s.cache.version

structure Tracked (s : LRUPersistentCache K V) : Prop where
  positive : 0 < s.cache.version
  versions : ∀ p, (s.persistences p).persistedVersion ≤ s.cache.version
  given : ∀ p, s.persistence = some p ∨ target s.syncer = some p → p < s.given
  standsAt : StandsAt s s.syncer
  synced : Synced s

theorem StandsAt.updated {syncer : Syncer K V} (standsAt : StandsAt s syncer) {cache : LRUInMemoryCache K V}
    (updates : Updates s.cache cache) (clearing : Nat) (clears : List Nat) :
    StandsAt { s with cache := cache, clearing := clearing, clears := clears } syncer := by
  have version := updates.version
  -- a snapshot of the version that the cache still has is one of its contents
  have kept {stored : Option (Dynamic K V)} {v : Nat} (bound : v ≤ s.cache.version) (current : v = cache.version)
      (holds : v = s.cache.version → Holds stored s.cache.cache) : Holds stored cache.cache :=
    (holds (by omega)).of_perm (updates.same (by omega))
  cases syncer with
  | waiting => trivial
  | picked p => trivial
  | changed p => exact Nat.lt_of_lt_of_le standsAt version
  | converted p kvPairs v =>
      obtain ⟨old, bound, holds⟩ := standsAt
      exact ⟨Nat.lt_of_lt_of_le old version, Nat.le_trans bound version, fun current => kept bound current holds⟩
  | persisted p v =>
      obtain ⟨old, bound, holds⟩ := standsAt
      exact ⟨Nat.lt_of_lt_of_le old version, Nat.le_trans bound version,
        fun here current => kept bound current (holds here)⟩
  | failed p attempt => exact Nat.lt_of_lt_of_le standsAt version
  | givingUp p v => exact Nat.le_trans standsAt version

theorem StandsAt.of_target {syncer : Syncer K V} (standsAt : StandsAt s syncer) (cache : s'.cache = s.cache)
    (same : ∀ p, target syncer = some p → s'.persistences p = s.persistences p)
    (current : ∀ p, target syncer = some p → s'.persistence = some p → s.persistence = some p) :
    StandsAt s' syncer := by
  cases syncer with
  | waiting => trivial
  | picked p => trivial
  | persisted p version =>
      simp only [StandsAt, cache, same p rfl]
      exact ⟨standsAt.1, standsAt.2.1, fun here => standsAt.2.2 (current p rfl here)⟩
  | givingUp p version => simpa only [StandsAt, cache] using standsAt
  | changed p => simpa only [StandsAt, cache, same p rfl] using standsAt
  | converted p kvPairs version => simpa only [StandsAt, cache, same p rfl] using standsAt
  | failed p attempt => simpa only [StandsAt, cache, same p rfl] using standsAt

theorem Tracked.updated (tracked : Tracked s) {cache : LRUInMemoryCache K V} (updates : Updates s.cache cache)
    (clearing : Nat) (clears : List Nat) :
    Tracked { s with cache := cache, clearing := clearing, clears := clears } where
  positive := Nat.lt_of_lt_of_le tracked.positive updates.version
  versions := fun p => Nat.le_trans (tracked.versions p) updates.version
  given := tracked.given
  standsAt := tracked.standsAt.updated updates clearing clears
  synced := by
    intro p here current
    have bound := tracked.versions p
    have version := updates.version
    simp only at current
    exact (tracked.synced p here (by omega)).of_perm (updates.same (by omega))

theorem Tracked.moved (tracked : Tracked s) {syncer : Syncer K V} (nSyncFailures : Nat)
    (known : ∀ p, target syncer = some p → s.persistence = some p ∨ target s.syncer = some p)
    (standsAt : StandsAt s syncer) : Tracked { s with syncer := syncer, nSyncFailures := nSyncFailures } where
  positive := tracked.positive
  versions := tracked.versions
  given := fun p here => tracked.given p (here.elim .inl (known p))
  standsAt := by cases syncer <;> exact standsAt
  synced := tracked.synced

theorem Tracked.waiting (tracked : Tracked s) (nSyncFailures : Nat) :
    Tracked { s with syncer := .waiting, nSyncFailures := nSyncFailures } :=
  tracked.moved nSyncFailures (by simp [target]) trivial

section set
variable {p q : Nat} {data : Option (Dynamic K V)}

theorem set_self (s : LRUPersistentCache K V) (p : Nat) (persistence : CachePersistence K V) :
    (s.set p persistence).persistences p = persistence :=
  Function.update_self ..

theorem set_of_ne (s : LRUPersistentCache K V) (other : q ≠ p) (persistence : CachePersistence K V) :
    (s.set p persistence).persistences q = s.persistences q :=
  Function.update_of_ne other ..

theorem set_stored_version (s : LRUPersistentCache K V) (p q : Nat) (data : Option (Dynamic K V)) :
    ((s.set p { s.persistences p with stored := data }).persistences q).persistedVersion =
      (s.persistences q).persistedVersion := by
  by_cases same : q = p
  · rw [same, set_self]
  · rw [set_of_ne s same]

theorem Tracked.stored (tracked : Tracked s) {syncer : Syncer K V} (clears : List Nat) (events : List SyncEvent)
    (known : target syncer = target s.syncer)
    (standsAt : StandsAt (s.set p { s.persistences p with stored := data }) syncer)
    (synced : s.persistence = some p → (s.persistences p).persistedVersion = s.cache.version →
      Holds data s.cache.cache) :
    Tracked { s.set p { s.persistences p with stored := data } with
      syncer := syncer, clears := clears, events := events } where
  positive := tracked.positive
  versions := fun q => by
    rw [set_stored_version]
    exact tracked.versions q
  given := fun q here => tracked.given q (by rwa [known] at here)
  standsAt := by cases syncer <;> exact standsAt
  synced := by
    intro q here current
    rw [set_stored_version] at current
    by_cases same : q = p
    · subst same
      rw [set_self]
      exact synced here current
    · rw [set_of_ne s same]
      exact tracked.synced q here current

theorem StandsAt.stored {syncer : Syncer K V} (standsAt : StandsAt s syncer)
    (timely : s.persistence = some p → recording p syncer = some s.cache.version → Holds data s.cache.cache) :
    StandsAt (s.set p { s.persistences p with stored := data }) syncer := by
  have versions (q : Nat) := set_stored_version s p q data
  cases syncer with
  | waiting => trivial
  | picked q => trivial
  | changed q => exact Nat.lt_of_le_of_lt (Nat.le_of_eq (versions q)) standsAt
  | converted q kvPairs version => exact ⟨(versions q).symm ▸ standsAt.1, standsAt.2⟩
  | persisted q version =>
      refine ⟨(versions q).symm ▸ standsAt.1, standsAt.2.1, fun here current => ?_⟩
      by_cases same : q = p
      · subst same
        rw [set_self]
        exact timely here (by simp [recording, current]; rfl)
      · rw [set_of_ne s same]
        exact standsAt.2.2 here current
  | failed q attempt => exact Nat.lt_of_le_of_lt (Nat.le_of_eq (versions q)) standsAt
  | givingUp q version => exact standsAt

theorem clearPersistence_tracked (tracked : Tracked s) (timely : Timely s (.clearPersistence p)) (clears : List Nat) :
    Tracked { s.set p { s.persistences p with stored := none } with clears := clears } := by
  have empty (isEmpty : s.cache.cache.entries.isEmpty) : Holds none s.cache.cache := by
    rw [List.isEmpty_iff] at isEmpty
    simp [Holds, isEmpty]
  apply tracked.stored clears s.events rfl
  · apply tracked.standsAt.stored
    intro here about
    rcases timely here with isEmpty | apart
    · exact empty isEmpty
    · exact absurd about apart.2
  · intro here current
    rcases timely here with isEmpty | apart
    · exact empty isEmpty
    · exact absurd current apart.1

theorem Tracked.replaced (tracked : Tracked s) (stored : Option (Dynamic K V)) :
    Tracked { s.set s.given { stored } with persistence := some s.given, given := s.given + 1 } where
  positive := tracked.positive
  versions := by
    intro p
    by_cases same : p = s.given
    · rw [same, set_self]
      exact Nat.zero_le _
    · rw [set_of_ne s same]
      exact tracked.versions p
  given := by
    intro p here
    rcases here with here | here
    · cases here
      exact Nat.lt_succ_self _
    · exact Nat.lt_succ_of_lt (tracked.given p (.inr here))
  standsAt := by
    have older {p : Nat} (isTarget : target s.syncer = some p) : p < s.given := tracked.given p (.inr isTarget)
    refine StandsAt.of_target (s := s) tracked.standsAt rfl ?_ ?_
    · exact fun p isTarget => set_of_ne s (Nat.ne_of_lt (older isTarget)) _
    · intro p isTarget here
      cases here
      exact absurd (older isTarget) (Nat.lt_irrefl _)
  synced := by
    intro p here current
    cases here
    rw [set_self] at current
    exact absurd current (Nat.ne_of_lt tracked.positive)

end set

theorem Tracked.recorded {p version : Nat} (tracked : Tracked s) (bound : version ≤ s.cache.version)
    (holds : s.persistence = some p → version = s.cache.version → Holds (s.persistences p).stored s.cache.cache)
    (events : List SyncEvent) : Tracked { (s.setPersistedVersion p version).synced with events := events } where
  positive := tracked.positive
  versions := fun q => by
    show ((s.setPersistedVersion p version).persistences q).persistedVersion ≤ s.cache.version
    by_cases same : q = p
    · rw [setPersistedVersion, same, set_self]
      exact bound
    · rw [setPersistedVersion, set_of_ne s same]
      exact tracked.versions q
  given := fun q here => tracked.given q (.inl (here.elim id fun none => by cases none))
  standsAt := trivial
  synced := by
    intro q here current
    change ((s.setPersistedVersion p version).persistences q).persistedVersion = s.cache.version at current
    show Holds ((s.setPersistedVersion p version).persistences q).stored s.cache.cache
    by_cases same : q = p
    · subst same
      rw [setPersistedVersion, set_self] at current ⊢
      exact holds here current
    · rw [setPersistedVersion, set_of_ne s same] at current ⊢
      exact tracked.synced q here current

theorem clear_updates (c : LRUInMemoryCache K V) : Updates c c.clear := by
  unfold LRUInMemoryCache.clear
  split
  · exact .refl c
  · exact .next

def Syncing : LRUPersistentCache.Op K V → Prop
  | .pick | .test | .convert _ | .persist _ | .record | .count | .giveUp => True
  | _ => False

inductive SyncStep (s : LRUPersistentCache K V) : LRUPersistentCache.Op K V → LRUPersistentCache K V → Prop
  | pick (place : s.syncer = .waiting) : SyncStep s .pick { s with syncer := .picked s.persistence }
  | idle (p : Option Nat) (place : s.syncer = .picked p)
      (unchanged : ∀ q, p = some q → s.cache.version = (s.persistences q).persistedVersion) :
      SyncStep s .test s.synced
  | changed (p : Nat) (place : s.syncer = .picked (some p))
      (pending : s.cache.version ≠ (s.persistences p).persistedVersion) :
      SyncStep s .test { s with syncer := .changed p }
  | converted (p : Nat) (place : s.syncer = .changed p) :
      SyncStep s (.convert true)
        { s with syncer := .converted p s.cache.convertToKeyValuePairs.1 s.cache.version }
  | unconverted (p : Nat) (place : s.syncer = .changed p) :
      SyncStep s (.convert false) { s with syncer := .failed p none }
  | stored (p : Nat) (kvPairs : Dynamic K V) (version : Nat) (place : s.syncer = .converted p kvPairs version) :
      SyncStep s (.persist .success) { s.set p { s.persistences p with stored := some kvPairs } with
        syncer := .persisted p version, events := s.events ++ [.stored p version] }
  | failed (p : Nat) (kvPairs : Dynamic K V) (version : Nat) (place : s.syncer = .converted p kvPairs version)
      (data : Option (Dynamic K V)) :
      SyncStep s (.persist (.failure data)) { s.set p { s.persistences p with stored := data } with
        syncer := .failed p (some version), events := s.events ++ [.failed p version] }
  | record (p version : Nat) (place : s.syncer = .persisted p version) :
      SyncStep s .record
        { (s.setPersistedVersion p version).synced with events := s.events ++ [.marked p version] }
  | retry (p : Nat) (attempt : Option Nat) (place : s.syncer = .failed p attempt)
      (further : s.nSyncFailures + 1 ≠ s.nSyncRetries) :
      SyncStep s .count { s with nSyncFailures := s.nSyncFailures + 1, syncer := .waiting }
  | exhausted (p : Nat) (attempt : Option Nat) (place : s.syncer = .failed p attempt)
      (last : s.nSyncFailures + 1 = s.nSyncRetries) :
      SyncStep s .count { s with nSyncFailures := s.nSyncFailures + 1, syncer := .givingUp p s.cache.version }
  | giveUp (p version : Nat) (place : s.syncer = .givingUp p version) :
      SyncStep s .giveUp { (s.setPersistedVersion p version).synced with
        events := s.events ++ [.marked p version], gaveUp := true }

theorem syncing_tracked {op : LRUPersistentCache.Op K V} (tracked : Tracked s) (stepped : SyncStep s op s')
    (going : s'.gaveUp = false) : Tracked s' := by
  have standsAt := tracked.standsAt
  have known {syncer : Syncer K V} (same : target syncer = target s.syncer) (p : Nat)
      (isTarget : target syncer = some p) : s.persistence = some p ∨ target s.syncer = some p :=
    .inr (same ▸ isTarget)
  cases stepped with
  | pick place => exact tracked.moved s.nSyncFailures (fun p here => .inl here) trivial
  | idle p place unchanged => exact tracked.waiting 0
  | changed p place pending =>
      apply tracked.moved s.nSyncFailures (known (by rw [place]; rfl))
      exact Nat.lt_of_le_of_ne (tracked.versions p) pending.symm
  | converted p place =>
      rw [place] at standsAt
      apply tracked.moved s.nSyncFailures (known (by rw [place]; rfl))
      exact ⟨standsAt, Nat.le_refl _, fun _ => List.Perm.refl _⟩
  | unconverted p place =>
      rw [place] at standsAt
      exact tracked.moved s.nSyncFailures (known (by rw [place]; rfl)) standsAt
  | stored p kvPairs version place =>
      rw [place] at standsAt
      obtain ⟨old, bound, holds⟩ := standsAt
      apply tracked.stored s.clears _ (by rw [place]; rfl)
      · refine ⟨by rw [set_stored_version]; exact old, bound, fun _ current => ?_⟩
        rw [set_self]
        exact holds current
      · exact fun _ current => absurd current (Nat.ne_of_lt old)
  | failed p kvPairs version place data =>
      rw [place] at standsAt
      apply tracked.stored s.clears _ (by rw [place]; rfl)
      · show _ < _
        rw [set_stored_version]
        exact standsAt.1
      · exact fun _ current => absurd current (Nat.ne_of_lt standsAt.1)
  | record p version place =>
      rw [place] at standsAt
      exact tracked.recorded standsAt.2.1 standsAt.2.2 _
  | retry p attempt place => exact tracked.waiting _
  | exhausted p attempt place last => exact tracked.moved _ (known (by rw [place]; rfl)) (Nat.le_refl _)
  | giveUp p version place => cases going

variable [DecidableEq K]

theorem get_updates (k : K) (c : LRUInMemoryCache K V) : Updates c (c.get k).2 :=
  ⟨Nat.le_refl _, fun _ => CacheMap.find_perm k c.cache⟩

theorem remove_updates (k : K) (c : LRUInMemoryCache K V) : Updates c (c.remove k) := by
  unfold LRUInMemoryCache.remove
  split
  · exact .next
  · exact .refl c

theorem loadLoop_not_updated (data : Dynamic K V) (cache : CacheMap K V) {updated : Bool}
    (none : (LRUInMemoryCache.loadLoop data cache updated).2 = false) :
    (LRUInMemoryCache.loadLoop data cache updated).1 = cache ∧ updated = false := by
  induction data generalizing cache updated with
  | nil => exact ⟨rfl, none⟩
  | cons entry rest ih =>
      cases entry with
      | none => exact ⟨rfl, none⟩
      | some kv => exact absurd (ih (cache.set kv.1 kv.2) none).2 (by simp)

theorem loadData_updates (data : Dynamic K V) (c : LRUInMemoryCache K V) : Updates c (c.loadData data) := by
  cases updated : (LRUInMemoryCache.loadLoop data c.cache false).2 with
  | true =>
      simp only [LRUInMemoryCache.loadData, updated]
      exact .next
  | false =>
      have same := (loadLoop_not_updated data c.cache updated).1
      simp only [LRUInMemoryCache.loadData, updated, same]
      exact .refl c

def InMemory : LRUPersistentCache.Op K V → Prop
  | .get _ | .put .. | .remove _ | .clear _ | .clearPick => True
  | _ => False

theorem inMemory_step {op : LRUPersistentCache.Op K V} (inMemory : InMemory op) (taken : s.step op = .ok s') :
    ∃ cache clearing clears, Updates s.cache cache ∧
      s' = { s with cache := cache, clearing := clearing, clears := clears } := by
  cases op with
  | get k =>
      cases taken
      exact ⟨_, _, _, get_updates k s.cache, rfl⟩
  | put k v =>
      cases taken
      exact ⟨_, _, _, .next, rfl⟩
  | remove k =>
      cases taken
      exact ⟨_, _, _, remove_updates k s.cache, rfl⟩
  | clear clearPersistence =>
      cases taken
      exact ⟨_, _, _, clear_updates s.cache, rfl⟩
  | clearPick =>
      simp only [step] at taken
      split at taken
      · cases taken
      · cases taken
        exact ⟨_, _, _, .refl _, rfl⟩
  | _ => exact inMemory.elim

theorem setPersistence_eq (stored : Option (Dynamic K V)) :
    ∃ cache, Updates s.cache cache ∧ s.setPersistenceHelper (some stored) false =
      { s.set s.given { stored } with cache := cache, persistence := some s.given, given := s.given + 1 } := by
  unfold setPersistenceHelper load
  simp only [set_self]
  cases stored with
  | none => exact ⟨s.cache, .refl _, rfl⟩
  | some kvPairs => exact ⟨s.cache.loadData kvPairs, loadData_updates kvPairs s.cache, rfl⟩

theorem setPersistence_tracked (tracked : Tracked s) (persistence : Option (Option (Dynamic K V))) :
    Tracked (s.setPersistenceHelper persistence false) := by
  cases persistence with
  | none =>
      have standsAt : StandsAt (s.setPersistenceHelper none false) s.syncer :=
        tracked.standsAt.of_target rfl (fun _ _ => rfl) fun p _ here => by cases here
      refine ⟨tracked.positive, tracked.versions, fun p here => tracked.given p (.inr ?_), standsAt, fun p here => ?_⟩
      · simpa [setPersistenceHelper] using here
      · cases here
  | some stored =>
      obtain ⟨cache, updates, replaced⟩ := setPersistence_eq (s := s) stored
      rw [replaced]
      exact (tracked.replaced stored).updated updates s.clearing s.clears

theorem syncing_step {op : LRUPersistentCache.Op K V} (syncing : Syncing op) (taken : s.step op = .ok s') :
    SyncStep s op s' := by
  cases op with
  | pick =>
      simp only [step] at taken
      split at taken <;> cases taken
      exact .pick ‹_›
  | test =>
      simp only [step] at taken
      split at taken
      · cases taken
        exact .idle none ‹_› (by simp)
      · split at taken <;> cases taken
        · rename_i p place pending
          exact .changed p place (by simpa [LRUInMemoryCache.hasChangedSince] using pending)
        · rename_i p place unchanged
          refine .idle (some p) place ?_
          intro q same
          cases same
          simpa [LRUInMemoryCache.hasChangedSince] using unchanged
      · cases taken
  | convert success =>
      simp only [step] at taken
      split at taken
      · cases success <;> cases taken
        · exact .unconverted _ ‹_›
        · exact .converted _ ‹_›
      · cases taken
  | persist outcome =>
      simp only [step] at taken
      split at taken
      · cases outcome <;> cases taken
        · exact .stored _ _ _ ‹_›
        · exact .failed _ _ _ ‹_› _
      · cases taken
  | record =>
      simp only [step] at taken
      split at taken <;> cases taken
      exact .record _ _ ‹_›
  | count =>
      simp only [step] at taken
      split at taken
      · split at taken <;> cases taken
        · exact .exhausted _ _ ‹_› ‹_›
        · exact .retry _ _ ‹_› ‹_›
      · cases taken
  | giveUp =>
      simp only [step] at taken
      split at taken <;> cases taken
      exact .giveUp _ _ ‹_›
  | _ => exact syncing.elim

theorem step_tracked {op : LRUPersistentCache.Op K V} (tracked : s.gaveUp = false → Tracked s) (timely : Timely s op)
    (taken : s.step op = .ok s') : s'.gaveUp = false → Tracked s' := by
  have inMemory (client : InMemory op) : s'.gaveUp = false → Tracked s' := by
    obtain ⟨cache, clearing, clears, updates, rfl⟩ := inMemory_step client taken
    exact fun going => (tracked going).updated updates clearing clears
  have syncing (syncing : Syncing op) : s'.gaveUp = false → Tracked s' := by
    have stepped := syncing_step syncing taken
    intro going
    refine syncing_tracked (tracked ?_) stepped going
    cases stepped <;> first | exact going | cases going
  cases op with
  | setPersistence persistence =>
      cases taken
      cases persistence with
      | none => exact fun going => setPersistence_tracked (tracked going) none
      | some stored =>
          obtain ⟨cache, -, replaced⟩ := setPersistence_eq (s := s) stored
          rw [replaced]
          intro going
          rw [← replaced]
          exact setPersistence_tracked (tracked going) (some stored)
  | clearPersistence p =>
      simp only [step] at taken
      split at taken
      · cases taken
        exact fun going => clearPersistence_tracked (tracked going) timely _
      · cases taken
  | get | put | remove | clear | clearPick => exact inMemory trivial
  | pick | test | convert | persist | record | count | giveUp => exact syncing trivial

def Loadable (capacity : Nat) : Option (Option (Dynamic K V)) → Prop
  | some (some data) => ∃ l : List (K × V), data = l.map some ∧ (l.map Prod.fst).Nodup ∧
      (capacity ≠ 0 → l.length ≤ capacity)
  | _ => True

def started (nSyncRetries : Int) (cache : LRUInMemoryCache K V) (persistence : CachePersistence K V) :
    LRUPersistentCache K V where
  cache := cache
  nSyncRetries := nSyncRetries
  persistences := Function.update (fun _ => {}) 0 persistence
  given := 1
  persistence := some 0

theorem new_unloaded (capacity : Nat) (nSyncRetries : Int) :
    LRUPersistentCache.new capacity nSyncRetries (some none) =
      started nSyncRetries (.new capacity : LRUInMemoryCache K V) {} := by
  simp [LRUPersistentCache.new, setPersistenceHelper, load, LRUPersistentCache.set, setPersistedVersion, started]

theorem new_loaded (capacity : Nat) (nSyncRetries : Int) (data : Dynamic K V) :
    LRUPersistentCache.new capacity nSyncRetries (some (some data)) =
      started nSyncRetries ((LRUInMemoryCache.new capacity).loadData data)
        { stored := some data, persistedVersion := ((LRUInMemoryCache.new capacity).loadData data).version } := by
  simp [LRUPersistentCache.new, setPersistenceHelper, load, LRUPersistentCache.set, setPersistedVersion, started]

omit [DecidableEq K] in
theorem started_tracked (nSyncRetries : Int) {cache : LRUInMemoryCache K V} {persistence : CachePersistence K V}
    (positive : 0 < cache.version) (bound : persistence.persistedVersion ≤ cache.version)
    (holds : persistence.persistedVersion = cache.version → Holds persistence.stored cache.cache) :
    Tracked (started nSyncRetries cache persistence) where
  positive := positive
  versions := by
    intro p
    by_cases first : p = 0
    · subst first
      exact bound
    · simp [started, first]
  given := by
    rintro p (here | here) <;> cases here
    exact Nat.one_pos
  standsAt := trivial
  synced := by
    intro p here current
    cases here
    exact holds current

theorem loadData_entries (capacity : Nat) {l : List (K × V)} (distinct : (l.map Prod.fst).Nodup)
    (room : capacity ≠ 0 → l.length ≤ capacity) :
    ((LRUInMemoryCache.new capacity).loadData (l.map some)).cache.entries = l.reverse := by
  show (LRUInMemoryCache.loadLoop (l.map some) (.empty capacity) false).1.entries = _
  rw [loadLoop_map_some, CacheMap.foldl_set_entries distinct _ (by simp [CacheMap.empty])]
  simp only [CacheMap.empty, List.append_nil]
  exact within_eq_self (by simpa using room)

theorem new_tracked {capacity : Nat} (nSyncRetries : Int) {persistence : Option (Option (Dynamic K V))}
    (loadable : Loadable capacity persistence) : Tracked (LRUPersistentCache.new capacity nSyncRetries persistence) := by
  match persistence with
  | none =>
      refine ⟨Nat.one_pos, fun p => Nat.zero_le _, fun p here => ?_, trivial, fun p here => by cases here⟩
      rcases here with here | here <;> cases here
  | some none =>
      rw [new_unloaded]
      exact started_tracked nSyncRetries Nat.one_pos (Nat.zero_le _) (by simp [LRUInMemoryCache.new])
  | some (some data) =>
      rw [new_loaded]
      have positive := (loadData_updates data (LRUInMemoryCache.new capacity)).version
      refine started_tracked nSyncRetries (Nat.lt_of_lt_of_le Nat.one_pos positive) (Nat.le_refl _) fun _ => ?_
      obtain ⟨l, rfl, distinct, room⟩ := loadable
      rw [Holds, loadData_entries capacity distinct room]
      exact (List.reverse_perm l).symm.map some

/-- Until the sync thread gives up, a persisted version that is the version of the cache means that the contents are
stored, if the current persistence is cleared only at such moments. -/
theorem run_synced (capacity : Nat) (nSyncRetries : Int) (persistence : Option (Option (Dynamic K V)))
    (loadable : Loadable capacity persistence) (ops : List (LRUPersistentCache.Op K V))
    (timely : Along step Timely (LRUPersistentCache.new capacity nSyncRetries persistence) ops)
    (s : LRUPersistentCache K V) (done : run (LRUPersistentCache.new capacity nSyncRetries persistence) ops = .ok s)
    (going : s.gaveUp = false) : Synced s := by
  refine (run_invariant (I := fun s => s.gaveUp = false → Tracked s) ?_ ?_ timely done going).synced
  · exact fun s op s' tracked timely taken => step_tracked tracked timely taken
  · exact fun _ => new_tracked nSyncRetries loadable

theorem run_synced_put :
    ∃ s : LRUPersistentCache Nat Nat,
      run (LRUPersistentCache.new 2 3 (some (some [some (1, 10)])))
          [.put 2 20, .pick, .test, .convert true, .persist .success, .record] = .ok s ∧
        s.gaveUp = false ∧ (s.persistences 0).persistedVersion = s.cache.version ∧ Synced s :=
  (Ends.exists_ok (Q := fun s => s.gaveUp = false ∧ (s.persistences 0).persistedVersion = s.cache.version)
    (by decide)).imp fun s ⟨done, going, current⟩ =>
      ⟨done, going, current, run_synced 2 3 (some (some [some (1, 10)])) ⟨[(1, 10)], rfl, by decide, by decide⟩ _
        (by decide) s done going⟩

/-- A call of `clear` empties the cache, another thread puts an entry, which is persisted, and then the call clears
the persistence. -/
theorem clear_loses_persisted_entry :
    ∃ s : LRUPersistentCache Nat Nat,
      run (LRUPersistentCache.new 5 3 (some none))
          [.put 1 10, .clear true, .put 2 20, .pick, .test, .convert true, .persist .success, .record, .clearPick,
            .clearPersistence 0] = .ok s ∧
        s.gaveUp = false ∧ s.persistence = some 0 ∧ (s.persistences 0).persistedVersion = s.cache.version ∧
        (s.persistences 0).stored = none ∧ s.cache.cache.entries = [(2, 20)] ∧ ¬ Synced s :=
  ⟨_, rfl, rfl, rfl, rfl, rfl, rfl, fun synced => absurd (List.Perm.length_eq (synced 0 rfl rfl)) (by decide)⟩

end Wangle.Proof.Client
