import Wangle.Proof.Client.Sync
import Wangle.Transition.Progress

/-!
# What the sync thread gives up on
-/

namespace Wangle.Proof.Client
open Wangle.Client LRUPersistentCache
open Wangle.Transition hiding run

variable {K V : Type} {s s' : LRUPersistentCache K V} {base : Nat}

def Tried (events : List SyncEvent) (p version : Nat) : Prop :=
  .stored p version ∈ events ∨ .failed p version ∈ events

def MarksTried (past : List SyncEvent) : SyncEvent → Prop
  | .marked p version => Tried past p version
  | _ => True

/-- If the retries have run out, the last attempt was one to persist the version that the cache still has. -/
def LastTried (s : LRUPersistentCache K V) : Syncer K V → Prop
  | .failed _ attempt => s.nSyncFailures + 1 = s.nSyncRetries → attempt = some s.cache.version
  | _ => True

def UpToDate (s : LRUPersistentCache K V) : LRUPersistentCache.Op K V → Prop
  | .count => LastTried s s.syncer
  | _ => True

instance (s : LRUPersistentCache K V) : DecidablePred (LastTried s)
  | .failed .. => inferInstanceAs (Decidable (_ → _))
  | .waiting | .picked _ | .changed _ | .converted .. | .persisted .. | .givingUp .. => isTrue trivial

instance (s : LRUPersistentCache K V) : DecidablePred (UpToDate s)
  | .count => inferInstanceAs (Decidable (LastTried s s.syncer))
  | .get _ | .put .. | .remove _ | .setPersistence _ | .clear _ | .clearPick | .clearPersistence _ | .pick | .test
  | .convert _ | .persist _ | .record | .giveUp => isTrue trivial

def Carries (s : LRUPersistentCache K V) : Syncer K V → Prop
  | .converted _ _ version => version ≤ s.cache.version
  | .persisted p version | .failed p (some version) | .givingUp p version => Tried s.events p version
  | _ => True

structure Attempts (base : Nat) (s : LRUPersistentCache K V) : Prop where
  version : base ≤ s.cache.version
  bound : ∀ p v, Tried s.events p v → v ≤ s.cache.version
  lawful : Lawful MarksTried [] s.events
  marks : ∀ p, (s.persistences p).persistedVersion ≤ base ∨ Tried s.events p (s.persistences p).persistedVersion
  carries : Carries s s.syncer

theorem Tried.append {events : List SyncEvent} {p version : Nat} (tried : Tried events p version)
    (more : List SyncEvent) : Tried (events ++ more) p version :=
  tried.imp (List.mem_append_left more) (List.mem_append_left more)

theorem tried_append_marked {events : List SyncEvent} {p v q w : Nat} (tried : Tried (events ++ [.marked q w]) p v) :
    Tried events p v := by
  simpa [Tried] using tried

theorem Carries.later {syncer : Syncer K V} (carries : Carries s syncer)
    (version : s.cache.version ≤ s'.cache.version) (events : s'.events = s.events) : Carries s' syncer := by
  have tried {p v : Nat} (before : Tried s.events p v) : Tried s'.events p v := by rwa [events]
  cases syncer with
  | converted p kvPairs v => exact Nat.le_trans carries version
  | persisted p v => exact tried carries
  | givingUp p v => exact tried carries
  | failed p attempt =>
      cases attempt with
      | none => trivial
      | some v => exact tried carries
  | _ => trivial

theorem Attempts.quiet (attempts : Attempts base s) (version : s.cache.version ≤ s'.cache.version)
    (events : s'.events = s.events)
    (marks : ∀ p, (s'.persistences p).persistedVersion = (s.persistences p).persistedVersion ∨
      (s'.persistences p).persistedVersion = 0) (carries : Carries s' s'.syncer) : Attempts base s' where
  version := Nat.le_trans attempts.version version
  bound := fun p v tried => Nat.le_trans (attempts.bound p v (events ▸ tried)) version
  lawful := events ▸ attempts.lawful
  marks := by
    intro p
    rw [events]
    rcases marks p with same | new
    · rw [same]
      exact attempts.marks p
    · rw [new]
      exact .inl (Nat.zero_le base)
  carries := carries

theorem Attempts.client (attempts : Attempts base s) (version : s.cache.version ≤ s'.cache.version)
    (events : s'.events = s.events)
    (marks : ∀ p, (s'.persistences p).persistedVersion = (s.persistences p).persistedVersion ∨
      (s'.persistences p).persistedVersion = 0) (syncer : s'.syncer = s.syncer) : Attempts base s' := by
  apply attempts.quiet version events marks
  rw [syncer]
  exact attempts.carries.later version events

theorem Attempts.moved (attempts : Attempts base s) {syncer : Syncer K V} (nSyncFailures : Nat)
    (carries : Carries s syncer) : Attempts base { s with syncer := syncer, nSyncFailures := nSyncFailures } :=
  attempts.quiet (Nat.le_refl _) rfl (fun _ => .inl rfl) (carries.later (Nat.le_refl _) rfl)

theorem Attempts.attempted (attempts : Attempts base s) {p v : Nat} {e : SyncEvent} {syncer : Syncer K V}
    (isAttempt : e = .stored p v ∨ e = .failed p v) (bound : v ≤ s.cache.version) (data : Option (Dynamic K V))
    (carries : Tried (s.events ++ [e]) p v → Carries { s with events := s.events ++ [e] } syncer) :
    Attempts base { s.set p { s.persistences p with stored := data } with
      syncer := syncer, events := s.events ++ [e] } where
  version := attempts.version
  bound := by
    intro q w tried
    have old : Tried s.events q w ∨ w = v := by
      rcases isAttempt with rfl | rfl <;> simp [Tried] at tried ⊢ <;> grind
    rcases old with old | rfl
    · exact attempts.bound q w old
    · exact bound
  lawful := by
    rw [lawful_append]
    refine ⟨attempts.lawful, ?_, trivial⟩
    rcases isAttempt with rfl | rfl <;> trivial
  marks := by
    intro q
    rw [set_stored_version]
    exact (attempts.marks q).imp_right fun tried => tried.append [e]
  carries := by
    apply Carries.later (carries ?_) (Nat.le_refl _) rfl
    rcases isAttempt with rfl | rfl <;> simp [Tried]

theorem Attempts.marked (attempts : Attempts base s) {p v : Nat} (tried : Tried s.events p v) (gaveUp : Bool) :
    Attempts base { (s.setPersistedVersion p v).synced with
      events := s.events ++ [.marked p v], gaveUp := gaveUp } where
  version := attempts.version
  bound := fun q w later => attempts.bound q w (tried_append_marked later)
  lawful := by
    rw [lawful_append]
    exact ⟨attempts.lawful, tried, trivial⟩
  marks := by
    intro q
    show ((s.setPersistedVersion p v).persistences q).persistedVersion ≤ base ∨ _
    by_cases same : q = p
    · subst same
      right
      show Tried _ q ((s.setPersistedVersion q v).persistences q).persistedVersion
      rw [setPersistedVersion, set_self]
      exact tried.append _
    · show _ ∨ Tried _ q ((s.setPersistedVersion p v).persistences q).persistedVersion
      rw [setPersistedVersion, set_of_ne s same]
      exact (attempts.marks q).imp_right fun tried => tried.append _
  carries := trivial

theorem Attempts.pending (attempts : Attempts base s) {p : Nat} (here : s.persistence = some p)
    (recent : base < s.cache.version) (untried : ¬ Tried s.events p s.cache.version) : s.hasPendingUpdates = true := by
  simp only [hasPendingUpdates, here, LRUInMemoryCache.hasChangedSince, decide_eq_true_eq]
  intro current
  rcases attempts.marks p with old | tried
  · omega
  · exact untried (current ▸ tried)

theorem syncing_attempts {op : LRUPersistentCache.Op K V} (attempts : Attempts base s) (upToDate : UpToDate s op)
    (stepped : SyncStep s op s') : Attempts base s' := by
  have carries := attempts.carries
  cases stepped with
  | pick place => exact attempts.moved s.nSyncFailures trivial
  | idle p place unchanged => exact attempts.moved 0 trivial
  | changed p place pending => exact attempts.moved s.nSyncFailures trivial
  | converted p place => exact attempts.moved s.nSyncFailures (Nat.le_refl _)
  | unconverted p place => exact attempts.moved s.nSyncFailures trivial
  | stored p kvPairs version place =>
      rw [place] at carries
      exact attempts.attempted (.inl rfl) carries (some kvPairs) id
  | failed p kvPairs version place data =>
      rw [place] at carries
      exact attempts.attempted (.inr rfl) carries data id
  | record p version place =>
      rw [place] at carries
      exact attempts.marked carries s.gaveUp
  | retry p attempt place => exact attempts.moved _ trivial
  | exhausted p attempt place last =>
      rw [place] at carries
      change LastTried s s.syncer at upToDate
      rw [place] at upToDate
      cases upToDate last
      exact attempts.moved _ carries
  | giveUp p version place =>
      rw [place] at carries
      exact attempts.marked carries true

section progress
variable {p first : Nat}

def distance (p first : Nat) : Syncer K V → Nat
  | .converted q _ version => if q = p ∧ first ≤ version then 0 else 6
  | .changed q => if q = p then 1 else 7
  | .picked q => if q = some p then 2 else 8
  | .waiting => 3
  | .persisted .. | .givingUp .. => 4
  | .failed .. => 5

theorem distance_lt (syncer : Syncer K V) : distance p first syncer < 9 := by
  cases syncer <;> simp only [distance] <;> first | omega | (split <;> omega)

theorem syncing_descends {op : LRUPersistentCache.Op K V} (attempts : Attempts base s) (here : s.persistence = some p)
    (recent : base < first) (bound : first ≤ s.cache.version) (stepped : SyncStep s op s')
    (convertible : op ≠ .convert false) :
    (∃ v, first ≤ v ∧ Tried s'.events p v) ∨ distance p first s'.syncer < distance p first s.syncer := by
  cases stepped with
  | pick place => simp [place, here, distance]
  | idle q place unchanged =>
      by_cases isCurrent : q = some p
      · left
        have current := unchanged p isCurrent
        rcases attempts.marks p with old | tried
        · omega
        · exact ⟨_, current ▸ bound, tried⟩
      · simp [place, synced, isCurrent, distance]
  | changed q place pending => by_cases same : q = p <;> simp [place, same, distance]
  | converted q place => by_cases same : q = p <;> simp [place, same, bound, distance]
  | unconverted q place => exact absurd rfl convertible
  | stored q kvPairs version place =>
      by_cases isAttempt : q = p ∧ first ≤ version
      · exact .inl ⟨version, isAttempt.2, by simp [Tried, isAttempt.1]⟩
      · simp [place, isAttempt, distance]
  | failed q kvPairs version place data =>
      by_cases isAttempt : q = p ∧ first ≤ version
      · exact .inl ⟨version, isAttempt.2, by simp [Tried, isAttempt.1]⟩
      · simp [place, isAttempt, distance]
  | record q version place => simp [place, synced, distance]
  | retry q attempt place => simp [place, distance]
  | exhausted q attempt place last => simp [place, distance]
  | giveUp q version place => simp [place, synced, distance]

end progress

theorem SyncStep.persistence_eq {op : LRUPersistentCache.Op K V} (stepped : SyncStep s op s') :
    s'.persistence = s.persistence ∧ s'.cache = s.cache := by
  cases stepped <;> exact ⟨rfl, rfl⟩

variable [DecidableEq K]

theorem syncing_enabled (s : LRUPersistentCache K V) : ∃ op s', Syncing op ∧ s.step op = .ok s' := by
  cases place : s.syncer with
  | waiting => exact ⟨.pick, _, trivial, by simp only [step, place]; rfl⟩
  | picked p =>
      refine ⟨.test, ?_⟩
      cases p with
      | none => exact ⟨_, trivial, by simp only [step, place]; rfl⟩
      | some p =>
          simp only [step, place]
          split <;> exact ⟨_, trivial, rfl⟩
  | changed p => exact ⟨.convert true, _, trivial, by simp only [step, place]; rfl⟩
  | converted p kvPairs version => exact ⟨.persist .success, _, trivial, by simp only [step, place]; rfl⟩
  | persisted p version => exact ⟨.record, _, trivial, by simp only [step, place]; rfl⟩
  | failed p attempt =>
      refine ⟨.count, ?_⟩
      simp only [step, place]
      split <;> exact ⟨_, trivial, rfl⟩
  | givingUp p version => exact ⟨.giveUp, _, trivial, by simp only [step, place]; rfl⟩

def ByClient : LRUPersistentCache.Op K V → Prop
  | .get _ | .put .. | .remove _ | .clear _ | .clearPick | .clearPersistence _ => True
  | _ => False

theorem client_step {op : LRUPersistentCache.Op K V} (client : ByClient op) (taken : s.step op = .ok s') :
    s.cache.version ≤ s'.cache.version ∧ s'.events = s.events ∧ s'.syncer = s.syncer ∧ s'.persistence = s.persistence ∧
      ∀ p, (s'.persistences p).persistedVersion = (s.persistences p).persistedVersion := by
  have inMemory (client : InMemory op) : s.cache.version ≤ s'.cache.version ∧ s'.events = s.events ∧
      s'.syncer = s.syncer ∧ s'.persistence = s.persistence ∧
      ∀ p, (s'.persistences p).persistedVersion = (s.persistences p).persistedVersion := by
    obtain ⟨cache, clearing, clears, updates, rfl⟩ := inMemory_step client taken
    exact ⟨updates.version, rfl, rfl, rfl, fun p => rfl⟩
  cases op with
  | clearPersistence p =>
      simp only [step] at taken
      split at taken
      · cases taken
        exact ⟨Nat.le_refl _, rfl, rfl, rfl, fun q => set_stored_version s p q none⟩
      · cases taken
  | get k => exact inMemory trivial
  | put k v => exact inMemory trivial
  | remove k => exact inMemory trivial
  | clear clearPersistence => exact inMemory trivial
  | clearPick => exact inMemory trivial
  | _ => exact client.elim

theorem setPersistence_attempts (attempts : Attempts base s) (persistence : Option (Option (Dynamic K V))) :
    Attempts base (s.setPersistenceHelper persistence false) := by
  cases persistence with
  | none => exact attempts.client (Nat.le_refl _) rfl (fun _ => .inl rfl) rfl
  | some stored =>
      obtain ⟨cache, updates, replaced⟩ := setPersistence_eq (s := s) stored
      rw [replaced]
      refine attempts.client updates.version rfl (fun p => ?_) rfl
      show ((s.set s.given { stored }).persistences p).persistedVersion = _ ∨
        ((s.set s.given { stored }).persistences p).persistedVersion = 0
      by_cases same : p = s.given
      · rw [same, set_self]
        exact .inr rfl
      · rw [set_of_ne s same]
        exact .inl rfl

theorem step_attempts {op : LRUPersistentCache.Op K V} (attempts : Attempts base s) (upToDate : UpToDate s op)
    (taken : s.step op = .ok s') : Attempts base s' := by
  have byClient (client : ByClient op) : Attempts base s' := by
    obtain ⟨version, events, syncer, -, marks⟩ := client_step client taken
    exact attempts.client version events (fun p => .inl (marks p)) syncer
  cases op with
  | setPersistence persistence =>
      cases taken
      exact setPersistence_attempts attempts persistence
  | get | put | remove | clear | clearPick | clearPersistence => exact byClient trivial
  | pick | test | convert | persist | record | count | giveUp =>
      exact syncing_attempts attempts upToDate (syncing_step trivial taken)

theorem new_attempts (capacity : Nat) (nSyncRetries : Int) (persistence : Option (Option (Dynamic K V))) :
    Attempts (LRUPersistentCache.new capacity nSyncRetries persistence).cache.version
      (LRUPersistentCache.new capacity nSyncRetries persistence) := by
  have started_attempts {cache : LRUInMemoryCache K V} {first : CachePersistence K V}
      (bound : first.persistedVersion ≤ cache.version) :
      Attempts (started nSyncRetries cache first).cache.version (started nSyncRetries cache first) := by
    refine ⟨Nat.le_refl _, by simp [started, Tried], trivial, fun p => .inl ?_, trivial⟩
    by_cases isFirst : p = 0
    · subst isFirst
      exact bound
    · simp [started, isFirst]
  cases persistence with
  | none =>
      exact ⟨Nat.le_refl _, by simp [LRUPersistentCache.new, Tried], trivial, fun p => .inl (Nat.zero_le _), trivial⟩
  | some stored =>
      cases stored with
      | none =>
          rw [new_unloaded]
          exact started_attempts (Nat.zero_le _)
      | some data =>
          rw [new_loaded]
          exact started_attempts (Nat.le_refl _)

theorem Attempts.leads (attempts : Attempts base s) {p : Nat} (here : s.persistence = some p)
    (recent : base < s.cache.version) (untried : ¬ Tried s.events p s.cache.version) :
    Leads step ByClient Syncing (fun s op => UpToDate s op ∧ op ≠ .convert false)
      (fun t => ∃ v, s.cache.version ≤ v ∧ ¬ Tried s.events p v ∧ Tried t.events p v) 9 s := by
  have fresh (v : Nat) (later : s.cache.version ≤ v) : ¬ Tried s.events p v := by
    intro tried
    have same := Nat.le_antisymm later (attempts.bound p v tried)
    exact untried (same ▸ tried)
  apply leads_of_rank (I := fun t => Attempts base t ∧ t.persistence = some p ∧ s.cache.version ≤ t.cache.version)
    (fun t => distance p s.cache.version t.syncer)
  · intro t op t' holds client taken
    obtain ⟨version, events, syncer, same, marks⟩ := client_step client taken
    refine ⟨⟨?_, same.trans holds.2.1, Nat.le_trans holds.2.2 version⟩, by rw [syncer]⟩
    exact holds.1.client version events (fun p => .inl (marks p)) syncer
  · exact fun t _ => syncing_enabled t
  · intro t op t' holds syncing permitted taken
    have stepped := syncing_step syncing taken
    obtain ⟨persistence, cache⟩ := stepped.persistence_eq
    obtain ⟨v, later, tried⟩ | nearer := syncing_descends holds.1 holds.2.1 recent holds.2.2 stepped permitted.2
    · exact .inl ⟨v, later, fresh v later, tried⟩
    · refine .inr ⟨⟨?_, persistence.trans holds.2.1, cache ▸ holds.2.2⟩, nearer⟩
      exact syncing_attempts holds.1 permitted.1 stepped
  · exact ⟨attempts, here, Nat.le_refl _⟩
  · exact distance_lt s.syncer

/-- Only versions that were attempted are marked as persisted. A version that has not been attempted is reported
as pending, and the sync thread attempts it or a later one. -/
theorem run_marksTried (capacity : Nat) (nSyncRetries : Int) (persistence : Option (Option (Dynamic K V)))
    (ops : List (LRUPersistentCache.Op K V))
    (upToDate : Along step UpToDate (LRUPersistentCache.new capacity nSyncRetries persistence) ops)
    (s : LRUPersistentCache K V) (done : run (LRUPersistentCache.new capacity nSyncRetries persistence) ops = .ok s) :
    Lawful MarksTried [] s.events ∧
      ∀ p, s.persistence = some p →
        (LRUPersistentCache.new capacity nSyncRetries persistence).cache.version < s.cache.version →
        ¬ Tried s.events p s.cache.version →
        s.hasPendingUpdates = true ∧
          Leads step ByClient Syncing (fun s op => UpToDate s op ∧ op ≠ .convert false)
            (fun t => ∃ v, s.cache.version ≤ v ∧ ¬ Tried s.events p v ∧ Tried t.events p v) 9 s := by
  have attempts := run_invariant (fun s op s' attempts upToDate taken => step_attempts attempts upToDate taken)
    (new_attempts capacity nSyncRetries persistence) upToDate done
  exact ⟨attempts.lawful, fun p here recent untried =>
    ⟨attempts.pending here recent untried, attempts.leads here recent untried⟩⟩

instance (events : List SyncEvent) (p version : Nat) : Decidable (Tried events p version) :=
  inferInstanceAs (Decidable (_ ∨ _))

theorem run_marksTried_put :
    ∃ s : LRUPersistentCache Nat Nat,
      run (LRUPersistentCache.new 5 2 (some none))
          [.put 1 10, .pick, .test, .convert true, .persist (.failure none), .count, .pick, .test, .convert true,
            .persist (.failure none), .count, .put 2 20, .giveUp] = .ok s ∧
        s.events = [.failed 0 2, .failed 0 2, .marked 0 2] ∧ s.cache.version = 3 ∧ s.hasPendingUpdates = true ∧
        Leads step ByClient Syncing (fun s op => UpToDate s op ∧ op ≠ .convert false)
          (fun t => ∃ v, s.cache.version ≤ v ∧ ¬ Tried s.events 0 v ∧ Tried t.events 0 v) 9 s :=
  (Ends.exists_ok (Q := fun s => s.events = [.failed 0 2, .failed 0 2, .marked 0 2] ∧ s.cache.version = 3 ∧
    s.persistence = some 0 ∧ ¬ Tried s.events 0 s.cache.version) (by decide)).imp
      fun s ⟨done, events, version, here, untried⟩ =>
        ⟨done, events, version,
          (run_marksTried 5 2 (some none) _ (by decide) s done).2 0 here (by rw [version]; decide) untried⟩

/-- The only attempt is one to persist version 2. The cache is updated before the retries are counted, and version 3
is marked as persisted. -/
theorem giveUp_marks_untried_version :
    ∃ s : LRUPersistentCache Nat Nat,
      run (LRUPersistentCache.new 5 1 (some none))
          [.put 1 10, .pick, .test, .convert true, .persist (.failure none), .put 2 20, .count, .giveUp] = .ok s ∧
        s.events = [.failed 0 2, .marked 0 3] ∧ ¬ Lawful MarksTried [] s.events ∧ s.cache.version = 3 ∧
        ¬ Tried s.events 0 3 ∧ s.hasPendingUpdates = false := by
  have untried : ¬ Tried [.failed 0 2] 0 3 := by decide
  exact ⟨_, rfl, rfl, fun lawful => untried lawful.2.1, rfl, fun tried => untried (tried_append_marked tried), rfl⟩

end Wangle.Proof.Client
