import Wangle.Ssl.SSLSessionCacheManager
import Mathlib.Algebra.BigOperators.Group.Finset.Basic
import Mathlib.Algebra.Order.BigOperators.Group.Finset
import Mathlib.Data.Fintype.BigOperators

/-!
# The sharded session cache is a bounded map

Each operation is one on the map of a bucket, and what it does to a session there does not depend on the other buckets.
-/

namespace Wangle.Proof.Ssl
open Wangle.Ssl Wangle.Recency ShardedLocalSSLSessionCache

variable {n : Nat} {cache : ShardedLocalSSLSessionCache n} {bucket : LocalSSLSessionCache} {sessionId : SessionId}

def onBucket (bucket : LocalSSLSessionCache) : CacheOp → LocalSSLSessionCache × List (SessionId × Option Session)
  | .storeSession sessionId session => (bucket.find sessionId).2.set sessionId session
  | .lookupSession sessionId => ((bucket.find sessionId).2, [])
  | .removeSession sessionId => (bucket.erase sessionId, [])

theorem caches_perform (cache : ShardedLocalSSLSessionCache n) (op : CacheOp) :
    (cache.perform op).caches =
      Function.update cache.caches (cache.hash op.sessionId) (onBucket (cache.bucketOf op.sessionId) op).1 := by
  cases op with
  | storeSession sessionId session => rfl
  | lookupSession sessionId => rfl
  | removeSession sessionId => rfl

theorem evicted_eq (cache : ShardedLocalSSLSessionCache n) (op : CacheOp) :
    cache.evicted op = (onBucket (cache.bucketOf op.sessionId) op).2 := by
  cases op with
  | storeSession sessionId session => rfl
  | lookupSession sessionId => rfl
  | removeSession sessionId => rfl

theorem hash_perform (cache : ShardedLocalSSLSessionCache n) (op : CacheOp) : (cache.perform op).hash = cache.hash := by
  cases op with
  | storeSession sessionId session => rfl
  | lookupSession sessionId => rfl
  | removeSession sessionId => rfl

theorem bucketOf_perform_same {op : CacheOp} (same : cache.hash op.sessionId = cache.hash sessionId) :
    (cache.perform op).bucketOf sessionId = (onBucket (cache.bucketOf sessionId) op).1 := by
  rw [bucketOf, hash_perform, caches_perform, ← same, Function.update_self, bucketOf, bucketOf, same]

theorem bucketOf_perform_other {op : CacheOp} (other : cache.hash op.sessionId ≠ cache.hash sessionId) :
    (cache.perform op).bucketOf sessionId = cache.bucketOf sessionId := by
  rw [bucketOf, hash_perform, caches_perform, Function.update_of_ne other.symm, bucketOf]

def storedAfter (sessionId : SessionId) (stored : Option (Option Session)) : CacheOp → Option (Option Session)
  | .storeSession other session => if sessionId = other then some session else stored
  | .lookupSession _ => stored
  | .removeSession other => if sessionId = other then none else stored

def mostRecent (sessionId : SessionId) (ops : List CacheOp) : Option (Option Session) :=
  ops.foldl (storedAfter sessionId) none

theorem get?_onBucket (bucket : LocalSSLSessionCache) (op : CacheOp) (sessionId : SessionId) :
    (onBucket bucket op).1.get? sessionId = none ∨
      (onBucket bucket op).1.get? sessionId = storedAfter sessionId (bucket.get? sessionId) op := by
  cases op with
  | storeSession other session =>
      have set := CullingMap.get?_set other session (bucket.find other).2 sessionId
      rwa [CullingMap.get?_find] at set
  | lookupSession other => exact .inr (CullingMap.get?_find ..)
  | removeSession other => exact .inr (CullingMap.get?_erase ..)

theorem get?_onBucket_of_none_evicted {op : CacheOp} (kept : (onBucket bucket op).2 = []) (sessionId : SessionId) :
    (onBucket bucket op).1.get? sessionId = storedAfter sessionId (bucket.get? sessionId) op := by
  cases op with
  | storeSession other session =>
      have set := CullingMap.get?_set_of_none_evicted kept sessionId
      rwa [CullingMap.get?_find] at set
  | lookupSession other => exact CullingMap.get?_find ..
  | removeSession other => exact CullingMap.get?_erase ..

theorem storedAfter_of_ne {op : CacheOp} (other : op.sessionId ≠ sessionId) (stored : Option (Option Session)) :
    storedAfter sessionId stored op = stored := by
  cases op with
  | storeSession id session => exact if_neg fun same => other same.symm
  | lookupSession id => rfl
  | removeSession id => exact if_neg fun same => other same.symm

theorem storedAfter_none (sessionId : SessionId) (stored : Option (Option Session)) (op : CacheOp) :
    storedAfter sessionId none op = none ∨ storedAfter sessionId none op = storedAfter sessionId stored op := by
  cases op with
  | lookupSession other => exact .inl rfl
  | storeSession other session | removeSession other =>
      by_cases same : sessionId = other
      · exact .inr (by simp [storedAfter, same])
      · exact .inl (by simp [storedAfter, same])

theorem get?_perform (cache : ShardedLocalSSLSessionCache n) (op : CacheOp) (sessionId : SessionId) :
    ((cache.perform op).bucketOf sessionId).get? sessionId = none ∨
      ((cache.perform op).bucketOf sessionId).get? sessionId =
        storedAfter sessionId ((cache.bucketOf sessionId).get? sessionId) op := by
  by_cases same : cache.hash op.sessionId = cache.hash sessionId
  · rw [bucketOf_perform_same same]
    exact get?_onBucket ..
  · rw [bucketOf_perform_other same, storedAfter_of_ne fun equal => same (congrArg cache.hash equal)]
    exact .inr rfl

theorem get?_perform_of_none_evicted {op : CacheOp}
    (kept : cache.hash op.sessionId = cache.hash sessionId → cache.evicted op = []) :
    ((cache.perform op).bucketOf sessionId).get? sessionId =
      storedAfter sessionId ((cache.bucketOf sessionId).get? sessionId) op := by
  by_cases same : cache.hash op.sessionId = cache.hash sessionId
  · have noneEvicted := kept same
    rw [evicted_eq, bucketOf, same, ← bucketOf] at noneEvicted
    rw [bucketOf_perform_same same]
    exact get?_onBucket_of_none_evicted noneEvicted sessionId
  · rw [bucketOf_perform_other same, storedAfter_of_ne fun equal => same (congrArg cache.hash equal)]

/-- No operation evicts anything in the bucket of the id. -/
def Undisturbed (sessionId : SessionId) : ShardedLocalSSLSessionCache n → List CacheOp → Prop
  | _, [] => True
  | cache, op :: ops =>
      (cache.hash op.sessionId = cache.hash sessionId → cache.evicted op = []) ∧ Undisturbed sessionId (cache.perform op) ops

theorem get?_performAll_of_undisturbed {ops : List CacheOp} (undisturbed : Undisturbed sessionId cache ops) :
    ((cache.performAll ops).bucketOf sessionId).get? sessionId =
      ops.foldl (storedAfter sessionId) ((cache.bucketOf sessionId).get? sessionId) := by
  induction ops generalizing cache with
  | nil => rfl
  | cons op ops ih =>
      have rest := ih undisturbed.2
      rwa [get?_perform_of_none_evicted undisturbed.1] at rest

theorem performAll_append (cache : ShardedLocalSSLSessionCache n) (front rest : List CacheOp) :
    cache.performAll (front ++ rest) = (cache.performAll front).performAll rest :=
  List.foldl_append ..

structure Bounded (maxSize clearSize : Nat) (bucket : LocalSSLSessionCache) : Prop where
  sameMax : bucket.maxSize = maxSize
  sameClear : bucket.clearSize = clearSize
  bounded : bucket.entries.length ≤ maxSize

theorem Bounded.onBucket {maxSize clearSize : Nat} (limited : 0 < maxSize) (clears : 0 < clearSize)
    (bounded : Bounded maxSize clearSize bucket) (op : CacheOp) :
    Bounded maxSize clearSize (Ssl.onBucket bucket op).1 := by
  obtain ⟨rfl, rfl, fits⟩ := bounded
  cases op with
  | storeSession sessionId session =>
      obtain ⟨sameMax, sameClear⟩ := CullingMap.find_sizes sessionId bucket
      obtain ⟨sameMax', sameClear'⟩ := CullingMap.set_sizes sessionId session (bucket.find sessionId).2
      refine ⟨sameMax'.trans sameMax, sameClear'.trans sameClear, ?_⟩
      have shorter := CullingMap.length_find_le sessionId bucket
      rw [← sameMax]
      exact CullingMap.length_set_le (by omega) (by omega) (by omega) sessionId session
  | lookupSession sessionId =>
      obtain ⟨sameMax, sameClear⟩ := CullingMap.find_sizes sessionId bucket
      exact ⟨sameMax, sameClear, Nat.le_trans (CullingMap.length_find_le ..) fits⟩
  | removeSession sessionId => exact ⟨rfl, rfl, Nat.le_trans (CacheMap.length_without_le ..) fits⟩

structure Holds (hash : SessionId → Fin n) (maxSize clearSize : Nat) (ops : List CacheOp)
    (cache : ShardedLocalSSLSessionCache n) : Prop where
  sameHash : cache.hash = hash
  bounded : ∀ i, Bounded maxSize clearSize (cache.caches i)
  stored : ∀ sessionId, (cache.bucketOf sessionId).get? sessionId = none ∨
    (cache.bucketOf sessionId).get? sessionId = mostRecent sessionId ops

theorem Holds.perform {hash : SessionId → Fin n} {maxSize clearSize : Nat} {ops : List CacheOp} (limited : 0 < maxSize)
    (clears : 0 < clearSize) (holds : Holds hash maxSize clearSize ops cache) (op : CacheOp) :
    Holds hash maxSize clearSize (ops ++ [op]) (cache.perform op) where
  sameHash := (hash_perform cache op).trans holds.sameHash
  bounded i := by
    rw [caches_perform]
    by_cases same : i = cache.hash op.sessionId
    · rw [same, Function.update_self]
      exact (holds.bounded _).onBucket limited clears op
    · rw [Function.update_of_ne same]
      exact holds.bounded i
  stored sessionId := by
    rw [mostRecent, List.foldl_concat, ← mostRecent]
    obtain lost | kept := get?_perform cache op sessionId
    · exact .inl lost
    · rw [kept]
      obtain absent | present := holds.stored sessionId
      · rw [absent]
        exact storedAfter_none ..
      · rw [present]
        exact .inr rfl

theorem performAll_holds (hash : SessionId → Fin n) (maxCacheSize cacheCullSize : Nat) (ops : List CacheOp) :
    Holds hash (max 1 (maxCacheSize / n)) (max 1 (cacheCullSize / n)) ops
      ((ShardedLocalSSLSessionCache.new hash maxCacheSize cacheCullSize).performAll ops) := by
  induction ops using List.reverseRecOn with
  | nil => exact ⟨rfl, fun _ => ⟨rfl, rfl, Nat.zero_le _⟩, fun _ => .inl rfl⟩
  | append_singleton ops op ih =>
      rw [performAll_append]
      exact ih.perform (by omega) (by omega) op

def totalSessions (cache : ShardedLocalSSLSessionCache n) : Nat := ∑ i, (cache.caches i).entries.length

theorem Holds.total {hash : SessionId → Fin n} {maxCacheSize clearSize : Nat} {ops : List CacheOp}
    (holds : Holds hash (max 1 (maxCacheSize / n)) clearSize ops cache) : totalSessions cache ≤ max n maxCacheSize := by
  calc totalSessions cache
      ≤ ∑ _ : Fin n, max 1 (maxCacheSize / n) := Finset.sum_le_sum fun i _ => (holds.bounded i).bounded
    _ = max (n * 1) (n * (maxCacheSize / n)) := by
        rw [Finset.sum_const_nat fun _ _ => rfl, Finset.card_univ, Fintype.card_fin, Nat.mul_max_mul_left]
    _ ≤ max n maxCacheSize := by
        have share := Nat.mul_div_le maxCacheSize n
        omega

theorem lookupSession_fst (sessionId : SessionId) (cache : ShardedLocalSSLSessionCache n) :
    (cache.lookupSession sessionId).1 = ((cache.bucketOf sessionId).get? sessionId).join := by
  rw [lookupSession, CullingMap.find_fst]

/-- What the cache is for: it keeps a session until it is removed or evicted, and the buckets are independent. -/
structure BoundedMap (new : ShardedLocalSSLSessionCache n) (maxCacheSize : Nat) (ops : List CacheOp) : Prop where
  total : totalSessions (new.performAll ops) ≤ max n maxCacheSize
  found : ∀ sessionId, ((new.performAll ops).lookupSession sessionId).1 = none ∨
    ((new.performAll ops).lookupSession sessionId).1 = (mostRecent sessionId ops).join
  -- nothing was evicted by the call that stored it, nor later
  kept : ∀ sessionId session before after, ops = before ++ .storeSession sessionId session :: after →
    Undisturbed sessionId (new.performAll before) (.storeSession sessionId session :: after) →
      ((new.performAll ops).lookupSession sessionId).1 = (mostRecent sessionId ops).join
  -- if a bucket does not clear more than it can hold, then nothing was evicted after that call
  keptSince : (∀ i, (new.caches i).clearSize ≤ (new.caches i).maxSize) →
    ∀ sessionId session before after, ops = before ++ .storeSession sessionId session :: after →
      Undisturbed sessionId ((new.performAll before).storeSession sessionId session) after →
        ((new.performAll ops).lookupSession sessionId).1 = (mostRecent sessionId ops).join
  independent : ∀ op sessionId, new.hash op.sessionId ≠ new.hash sessionId →
    (((new.performAll ops).perform op).lookupSession sessionId).1 = ((new.performAll ops).lookupSession sessionId).1

theorem get?_storeSession_self (room : (cache.bucketOf sessionId).clearSize ≤ (cache.bucketOf sessionId).maxSize)
    (session : Option Session) :
    ((cache.storeSession sessionId session).bucketOf sessionId).get? sessionId = some session := by
  obtain ⟨sameMax, sameClear⟩ := CullingMap.find_sizes sessionId (cache.bucketOf sessionId)
  have set : ((cache.perform (.storeSession sessionId session)).bucketOf sessionId) =
      (((cache.bucketOf sessionId).find sessionId).2.set sessionId session).1 := bucketOf_perform_same rfl
  rw [show cache.storeSession sessionId session = cache.perform (.storeSession sessionId session) from rfl, set]
  exact CullingMap.get?_set_self (by omega) sessionId session

theorem foldl_storedAfter_store (sessionId : SessionId) (session : Option Session) (before after : List CacheOp)
    (stored : Option (Option Session)) :
    (CacheOp.storeSession sessionId session :: after).foldl (storedAfter sessionId) stored =
      mostRecent sessionId (before ++ .storeSession sessionId session :: after) := by
  rw [mostRecent, List.foldl_append, List.foldl_cons, List.foldl_cons]
  simp only [storedAfter, if_true]

/-- Every sequence of operations on a new cache makes it such a map, for every hash function. -/
theorem shardedCache_boundedMap (n : Nat) (hash : SessionId → Fin n) (maxCacheSize cacheCullSize : Nat)
    (ops : List CacheOp) :
    BoundedMap (ShardedLocalSSLSessionCache.new hash maxCacheSize cacheCullSize) maxCacheSize ops where
  total := (performAll_holds hash maxCacheSize cacheCullSize ops).total
  found sessionId := by
    rw [lookupSession_fst]
    obtain absent | present := (performAll_holds hash maxCacheSize cacheCullSize ops).stored sessionId
    · exact .inl (by rw [absent, Option.join_none])
    · exact .inr (by rw [present])
  kept sessionId session before after isOps undisturbed := by
    subst isOps
    rw [lookupSession_fst, performAll_append, get?_performAll_of_undisturbed undisturbed,
      foldl_storedAfter_store sessionId session before]
  keptSince room sessionId session before after isOps undisturbed := by
    subst isOps
    have bounded := (performAll_holds hash maxCacheSize cacheCullSize before).bounded
    have enough : ∀ i, (((ShardedLocalSSLSessionCache.new hash maxCacheSize cacheCullSize).performAll before).caches i).clearSize ≤
        (((ShardedLocalSSLSessionCache.new hash maxCacheSize cacheCullSize).performAll before).caches i).maxSize := by
      intro i
      rw [(bounded i).sameMax, (bounded i).sameClear]
      exact room i
    have stored := get?_performAll_of_undisturbed undisturbed
    rw [get?_storeSession_self (enough _)] at stored
    rw [lookupSession_fst, performAll_append, ← foldl_storedAfter_store sessionId session before after none, List.foldl_cons]
    simp only [storedAfter, if_true]
    exact congrArg Option.join stored
  independent op sessionId other := by
    rw [lookupSession_fst, lookupSession_fst, bucketOf_perform_other]
    rwa [(performAll_holds hash maxCacheSize cacheCullSize ops).sameHash]

-- two sessions are cleared at once where there is room for one, and the one just stored is the second
example :
    (((ShardedLocalSSLSessionCache.new (fun _ => (0 : Fin 1)) 1 2).performAll
      [.storeSession [1] (some 7), .storeSession [2] (some 8)]).lookupSession [2]).1 = none := by
  decide

end Wangle.Proof.Ssl
