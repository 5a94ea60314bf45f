import Wangle.Proof.Ssl.SessionSteps
import Mathlib.Algebra.BigOperators.Group.Finset.Basic
import Mathlib.Data.Fintype.BigOperators

/-!
# The references that the session cache owns
-/

namespace Wangle.Proof.Ssl
open Wangle.Ssl Wangle.Recency ShardedLocalSSLSessionCache SSLSessionCacheManager
open Wangle.Transition hiding run

variable {n : Nat} {cache : ShardedLocalSSLSessionCache n} {m m' : SSLSessionCacheManager n} {p : Session}
  {sessionId : SessionId}

def held (p : Session) (cache : ShardedLocalSSLSessionCache n) : Nat :=
  ∑ i, (cache.caches i).values.count (some p)

theorem held_record (p : Session) (events : List RefEvent) (cache : ShardedLocalSSLSessionCache n) :
    held p (cache.record events) = held p cache := rfl

structure Balanced (cache : ShardedLocalSSLSessionCache n) : Prop where
  stored : ∀ p, cache.refs.count (.stored p) = cache.refs.count (.SSL_SESSION_free p) + held p cache
  returned : ∀ p, cache.refs.count (.returned p) = cache.refs.count (.SSL_SESSION_up_ref p)
  notNull : ∀ i, none ∉ (cache.caches i).values

theorem caches_setBucket_self (sessionId : SessionId) (bucket : LocalSSLSessionCache)
    (cache : ShardedLocalSSLSessionCache n) : (cache.setBucket sessionId bucket).caches (cache.hash sessionId) = bucket :=
  Function.update_self ..

theorem caches_setBucket_of_ne {i : Fin n} (other : i ≠ cache.hash sessionId) (bucket : LocalSSLSessionCache) :
    (cache.setBucket sessionId bucket).caches i = cache.caches i :=
  Function.update_of_ne other ..

theorem held_setBucket (p : Session) (sessionId : SessionId) (bucket : LocalSSLSessionCache)
    (cache : ShardedLocalSSLSessionCache n) :
    held p (cache.setBucket sessionId bucket) + (cache.bucketOf sessionId).values.count (some p) =
      held p cache + bucket.values.count (some p) := by
  have split (c : ShardedLocalSSLSessionCache n) : held p c = (c.caches (cache.hash sessionId)).values.count (some p) +
      ∑ i ∈ Finset.univ.erase (cache.hash sessionId), (c.caches i).values.count (some p) :=
    (Finset.add_sum_erase _ _ (Finset.mem_univ _)).symm
  have others : ∑ i ∈ Finset.univ.erase (cache.hash sessionId),
        ((cache.setBucket sessionId bucket).caches i).values.count (some p) =
      ∑ i ∈ Finset.univ.erase (cache.hash sessionId), (cache.caches i).values.count (some p) := by
    refine Finset.sum_congr rfl fun i member => ?_
    rw [caches_setBucket_of_ne (Finset.ne_of_mem_erase member)]
  rw [split, split cache, others, caches_setBucket_self, bucketOf]
  omega

theorem count_freeAll (p : Session) (sessions : List (Option Session)) :
    (freeAll sessions).count (.SSL_SESSION_free p) = sessions.count (some p) := by
  induction sessions with
  | nil => rfl
  | cons session sessions ih =>
      cases session with
      | none => simpa [freeAll] using ih
      | some q =>
          have same : (RefEvent.SSL_SESSION_free q == RefEvent.SSL_SESSION_free p) = (some q == some p) := by simp
          show (RefEvent.SSL_SESSION_free q :: freeAll sessions).count _ = _
          rw [List.count_cons, List.count_cons, ih, same]

theorem count_freeAll_of_ne {event : RefEvent} (other : ∀ p, event ≠ .SSL_SESSION_free p)
    (sessions : List (Option Session)) : (freeAll sessions).count event = 0 := by
  rw [List.count_eq_zero, freeAll, List.mem_filterMap]
  rintro ⟨session, -, isEvent⟩
  obtain ⟨p, -, rfl⟩ := Option.map_eq_some_iff.mp isEvent
  exact other p rfl

theorem Balanced.setBucket (balanced : Balanced cache) {bucket : LocalSSLSessionCache}
    (same : bucket.values.Perm (cache.bucketOf sessionId).values) : Balanced (cache.setBucket sessionId bucket) where
  stored := by
    intro p
    have kept := held_setBucket p sessionId bucket cache
    rw [same.count_eq] at kept
    rw [show held p (cache.setBucket sessionId bucket) = held p cache by omega]
    exact balanced.stored p
  returned := balanced.returned
  notNull := by
    intro i
    by_cases isBucket : i = cache.hash sessionId
    · rw [isBucket, caches_setBucket_self, same.mem_iff]
      exact balanced.notNull _
    · rw [caches_setBucket_of_ne isBucket]
      exact balanced.notNull i

theorem Balanced.upRef_returned (balanced : Balanced cache) (session : Option Session) :
    Balanced ((cache.record (session.toList.map .SSL_SESSION_up_ref)).record (session.toList.map .returned)) where
  stored := by
    intro p
    rw [held_record, held_record]
    have kept := balanced.stored p
    cases session with
    | none => simpa [record] using kept
    | some q => simpa [record] using kept
  returned := by
    intro p
    have kept := balanced.returned p
    cases session with
    | none => simpa [record] using kept
    | some q => simp [record, kept, List.count_cons]
  notNull := balanced.notNull

theorem Balanced.storeSession (balanced : Balanced cache) (sessionId : SessionId) (session : Session) :
    Balanced (cache.storeSession sessionId (some session)) := by
  obtain ⟨bucket, isBucket⟩ : ∃ bucket, bucket = cache.bucketOf sessionId := ⟨_, rfl⟩
  obtain ⟨set, isSet⟩ : ∃ set, set = (bucket.find sessionId).2.set sessionId (some session) := ⟨_, rfl⟩
  obtain ⟨events, isEvents⟩ : ∃ events, events = [.stored session] ++ freeAll (bucket.find sessionId).1.toList ++
    freeAll (set.2.map Prod.snd) := ⟨_, rfl⟩
  have perm : (set.1.values ++ (bucket.find sessionId).1.toList ++ set.2.map Prod.snd).Perm (some session :: bucket.values) := by
    have perm := CullingMap.set_values sessionId (some session) (bucket.find sessionId).2
    rw [CullingMap.get?_find, ← CullingMap.find_fst] at perm
    rw [isSet]
    exact perm.trans ((CullingMap.find_values sessionId bucket).cons _)
  have result : cache.storeSession sessionId (some session) = (cache.record events).setBucket sessionId set.1 := by
    rw [isEvents, isSet, isBucket]
    rfl
  rw [result]
  constructor
  · intro p
    have kept := balanced.stored p
    have moved := held_setBucket p sessionId set.1 (cache.record events)
    have counts := perm.count_eq (some p)
    have stores : events.count (.stored p) = [some session].count (some p) := by
      rw [isEvents, List.count_append, List.count_append, count_freeAll_of_ne (by simp), count_freeAll_of_ne (by simp)]
      simp [List.count_singleton]
    have frees : events.count (.SSL_SESSION_free p) =
        (bucket.find sessionId).1.toList.count (some p) + (set.2.map Prod.snd).count (some p) := by
      rw [isEvents, List.count_append, List.count_append, count_freeAll, count_freeAll]
      simp
    rw [held_record, show (cache.record events).bucketOf sessionId = bucket from isBucket.symm] at moved
    rw [List.count_append, List.count_append, ← List.singleton_append, List.count_append] at counts
    show (cache.refs ++ events).count _ = (cache.refs ++ events).count _ + _
    rw [List.count_append, List.count_append, stores, frees]
    omega
  · intro p
    have none (event : RefEvent) (other : ∀ p, event ≠ .SSL_SESSION_free p) (notStored : event ≠ .stored session) :
        events.count event = 0 := by
      rw [isEvents, List.count_append, List.count_append, count_freeAll_of_ne other, count_freeAll_of_ne other]
      simpa [List.count_singleton] using notStored.symm
    show (cache.refs ++ events).count _ = (cache.refs ++ events).count _
    rw [List.count_append, List.count_append, none _ (by simp) (by simp), none _ (by simp) (by simp)]
    exact congrArg (· + 0) (balanced.returned p)
  · intro i
    by_cases same : i = cache.hash sessionId
    · have whole : none ∉ set.1.values ++ (bucket.find sessionId).1.toList ++ set.2.map Prod.snd := by
        rw [perm.mem_iff, isBucket]
        simpa [bucketOf] using balanced.notNull (cache.hash sessionId)
      rw [List.append_assoc] at whole
      rw [same, show cache.hash = (cache.record events).hash from rfl, caches_setBucket_self]
      exact fun null => whole (List.mem_append_left _ null)
    · rw [caches_setBucket_of_ne (show i ≠ (cache.record events).hash sessionId from same)]
      exact balanced.notNull i

theorem record_nil (cache : ShardedLocalSSLSessionCache n) : cache.record [] = cache := by
  rw [record, List.append_nil]

theorem Balanced.removeSession (balanced : Balanced cache) (absent : (cache.bucketOf sessionId).get? sessionId = none) :
    Balanced (cache.removeSession sessionId) := by
  have perm := CullingMap.erase_values sessionId (cache.bucketOf sessionId)
  rw [absent, Option.toList_none, List.append_nil] at perm
  exact balanced.setBucket perm

/-- No session is removed that the cache has, and no lookup yields malformed data. -/
def KeepsReferences (m : SSLSessionCacheManager n) : Op → Prop
  | .removeSession sessionId => (m.localCache.bucketOf sessionId).get? sessionId = none
  | .complete _ (.onGetSuccess session) => session ≠ none
  | .complete _ (.onGetSuccessBuf valueBuf) => valueBuf ≠ some none
  | .complete _ .onGetFailure => True
  | .newSession .. => True
  | .getSession .. => True
  | .getAsyncReturns _ => True
  | .restartReturns => True

structure CountsReferences (m : SSLSessionCacheManager n) : Prop where
  balanced : Balanced m.localCache
  restored : ∀ cacheCtx next, .restartSSLAccept cacheCtx next (some none) ∉ m.stack

theorem CountsReferences.push (counts : CountsReferences m) {frame : Frame}
    (wellFormed : ∀ cacheCtx next, frame ≠ .restartSSLAccept cacheCtx next (some none)) {stack : List Frame}
    (below : ∀ frame ∈ stack, frame ∈ m.stack) :
    ∀ cacheCtx next, .restartSSLAccept cacheCtx next (some none) ∉ frame :: stack := by
  intro cacheCtx next member
  rcases List.mem_cons.mp member with top | lower
  · exact wellFormed cacheCtx next top.symm
  · exact counts.restored cacheCtx next (below _ lower)

theorem Balanced.looked (balanced : Balanced m.localCache) (miss : missed sessionId m) :
    Balanced (looked sessionId m).localCache := by
  show Balanced ((m.localCache.setBucket sessionId _).record ((m.localCache.lookupSession sessionId).1.toList.map _))
  rw [show (m.localCache.lookupSession sessionId).1 = none from miss, Option.toList_none, List.map_nil, record_nil]
  exact balanced.setBucket (CullingMap.find_values ..)

theorem CountsReferences.step {op : Op} (counts : CountsReferences m) (keeps : KeepsReferences m op)
    (taken : SSLSessionCacheManager.step m op = .ok m') : CountsReferences m' := by
  cases takes_of_step taken with
  | newSession sessionId session => exact ⟨counts.balanced.storeSession sessionId session, counts.restored⟩
  | removeSession sessionId => exact ⟨counts.balanced.removeSession keeps, counts.restored⟩
  | short sslSocket sessionId wantsLookup => exact counts
  | returned sslSocket sessionId wantsLookup =>
      have found := counts.balanced.setBucket (CullingMap.find_values sessionId (m.localCache.bucketOf sessionId))
      exact ⟨found.upRef_returned _, counts.restored⟩
  | started sslSocket sessionId wantsLookup miss free =>
      exact ⟨counts.balanced.looked miss, counts.push (by simp) fun _ member => member⟩
  | attached sslSocket sessionId wantsLookup pending miss isPending inProgress =>
      exact ⟨counts.balanced.looked miss, counts.restored⟩
  | answered sslSocket sessionId wantsLookup pending miss =>
      exact ⟨(counts.balanced.looked miss).upRef_returned pending.session, counts.restored⟩
  | asked cacheCtx stack isStack =>
      refine ⟨counts.balanced, fun other next member => counts.restored other next ?_⟩
      rw [isStack]
      exact List.mem_cons_of_mem _ member
  | refused cacheCtx stack isStack isOutstanding =>
      refine ⟨counts.balanced, fun other next member => counts.restored other next ?_⟩
      rw [isStack]
      exact List.mem_cons_of_mem _ member
  | dropped cacheCtx isOutstanding => exact ⟨counts.balanced, counts.restored⟩
  | woke cacheCtx completion pending isOutstanding isPending =>
      refine ⟨counts.balanced, counts.push ?_ fun _ member => member⟩
      intro other next same
      cases completion with
      | onGetSuccess session =>
          cases same
          exact keeps rfl
      | onGetSuccessBuf valueBuf =>
          cases same
          exact keeps rfl
      | onGetFailure => cases same
  | next cacheCtx i restored stack pending sslSocket isStack isPending isWaiter =>
      refine ⟨counts.balanced, counts.push ?_ fun _ member => isStack ▸ List.mem_cons_of_mem _ member⟩
      intro other next same
      cases same
      exact counts.restored cacheCtx i (isStack ▸ List.mem_cons_self)
  | last cacheCtx i restored stack pending isStack isPending noWaiter =>
      refine ⟨?_, fun other next member => counts.restored other next (isStack ▸ List.mem_cons_of_mem _ member)⟩
      cases restored with
      | none => exact counts.balanced
      | some session =>
          cases session with
          | none => exact absurd (isStack ▸ List.mem_cons_self) (counts.restored cacheCtx i)
          | some session => exact counts.balanced.storeSession cacheCtx.sessionId session

theorem new_countsReferences (hash : SessionId → Fin n) (maxCacheSize cacheCullSize : Nat) (externalCache : Bool) :
    CountsReferences { localCache := .new hash maxCacheSize cacheCullSize, externalCache } := by
  refine ⟨⟨fun p => ?_, fun p => rfl, fun i => ?_⟩, fun _ _ => by simp⟩
  · simp [ShardedLocalSSLSessionCache.new, held, CullingMap.values]
  · simp [ShardedLocalSSLSessionCache.new, CullingMap.values]

/-- Every reference that the cache was given is freed or is held by an entry, no entry is null, and every session that
is returned has its own reference. No cached session must be removed and no lookup must yield malformed data. -/
theorem references_balance (hash : SessionId → Fin n) (maxCacheSize cacheCullSize : Nat) (externalCache : Bool)
    (ops : List Op) (m : SSLSessionCacheManager n)
    (along : Along SSLSessionCacheManager.step KeepsReferences
      { localCache := .new hash maxCacheSize cacheCullSize, externalCache } ops)
    (done : run { localCache := .new hash maxCacheSize cacheCullSize, externalCache } ops = .ok m) :
    (∀ p, m.localCache.refs.count (.stored p) = m.localCache.refs.count (.SSL_SESSION_free p) + held p m.localCache) ∧
      (∀ i, none ∉ (m.localCache.caches i).values) ∧
      ∀ p, m.localCache.refs.count (.returned p) = m.localCache.refs.count (.SSL_SESSION_up_ref p) := by
  have counts := run_invariant (fun m op m' counts keeps taken => CountsReferences.step counts keeps taken)
    (new_countsReferences hash maxCacheSize cacheCullSize externalCache) along done
  exact ⟨counts.balanced.stored, counts.balanced.notNull, counts.balanced.returned⟩

section examples

def sessionId₁ : SessionId := List.replicate 16 1

def replacing : List Op :=
  [.newSession sessionId₀ 1, .newSession sessionId₀ 2, .getSession 0 sessionId₀ true, .getSession 0 sessionId₁ true,
    .getAsyncReturns true, .complete ⟨sessionId₁, 0, 0⟩ (.onGetSuccess (some 3)), .restartReturns]

theorem references_balance_replaced : ∃ m, run oneEntry replacing = .ok m ∧
    m.localCache.refs = [.stored 1, .stored 2, .SSL_SESSION_free 1, .SSL_SESSION_up_ref 2, .returned 2, .stored 3,
      .SSL_SESSION_free 2] ∧
    ∀ p, m.localCache.refs.count (.stored p) = m.localCache.refs.count (.SSL_SESSION_free p) + held p m.localCache := by
  have along : Along SSLSessionCacheManager.step KeepsReferences oneEntry replacing := by
    refine ⟨trivial, fun _ _ => ⟨trivial, fun _ _ => ⟨trivial, fun _ _ => ⟨trivial, fun _ _ => ⟨trivial, ?_⟩⟩⟩⟩⟩
    exact fun _ _ => ⟨Option.some_ne_none 3, fun _ _ => ⟨trivial, fun _ _ => trivial⟩⟩
  exact ⟨_, rfl, by decide, (references_balance (fun _ => 0) 1 1 true replacing _ along rfl).1⟩

/-- The reference of a removed session is not freed, and malformed data become a null entry. -/
theorem removed_session_not_freed :
    (∃ m, run oneEntry [.newSession sessionId₀ 1, .removeSession sessionId₀] = .ok m ∧
      m.localCache.refs = [.stored 1] ∧ held 1 m.localCache = 0) ∧
    ∃ m, run oneEntry [.getSession 0 sessionId₀ true, .getAsyncReturns true,
        .complete ⟨sessionId₀, 0, 0⟩ (.onGetSuccess none), .restartReturns] = .ok m ∧
      none ∈ (m.localCache.caches 0).values :=
  ⟨⟨_, rfl, by decide, by decide⟩, ⟨_, rfl, by decide⟩⟩

end examples

end Wangle.Proof.Ssl
