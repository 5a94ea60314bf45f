import Wangle.Client.LRUPersistentCache

/-!
# What persisting and loading does to the recency order
-/

namespace Wangle.Proof.Client
open Wangle.Client Wangle.Recency LRUInMemoryCache

variable {K V : Type} [DecidableEq K]

inductive CacheOp (K V : Type)
  | put (k : K) (v : V)
  | get (k : K)
  | remove (k : K)

def applyOp (s : LRUInMemoryCache K V) : CacheOp K V → LRUInMemoryCache K V
  | .put k v => s.put k v
  | .get k => (s.get k).2
  | .remove k => s.remove k

def reloaded (capacity : Nat) (nSyncRetries : Int) (s : LRUInMemoryCache K V) : LRUInMemoryCache K V :=
  (LRUPersistentCache.new capacity nSyncRetries (some (some s.convertToKeyValuePairs.1))).cache

def evictions : List (K × V) → LRUInMemoryCache K V → List (List K)
  | [], _ => []
  | (k, v) :: puts, s => s.cache.evicted k v :: evictions puts (s.put k v)

def KeepsRecency (s loaded : LRUInMemoryCache K V) : Prop :=
  loaded.cache.entries = within loaded.cache.maxSize s.cache.entries ∧
    (loaded.cache.maxSize = s.cache.maxSize → ∀ puts, evictions puts loaded = evictions puts s)

theorem loadLoop_map_some (l : List (K × V)) (cache : CacheMap K V) (updated : Bool) :
    (loadLoop (l.map some) cache updated).1 = l.foldl (fun m entry => m.set entry.1 entry.2) cache := by
  induction l generalizing cache updated with
  | nil => rfl
  | cons entry rest ih => exact ih (cache.set entry.1 entry.2) true

theorem foldl_set_maxSize (l : List (K × V)) (cache : CacheMap K V) :
    (l.foldl (fun m entry => m.set entry.1 entry.2) cache).maxSize = cache.maxSize := by
  induction l generalizing cache with
  | nil => rfl
  | cons entry rest ih => exact ih (cache.set entry.1 entry.2)

theorem reloaded_cache (capacity : Nat) (nSyncRetries : Int) (s : LRUInMemoryCache K V) :
    (reloaded capacity nSyncRetries s).cache =
      s.cache.entries.foldl (fun m entry => m.set entry.1 entry.2) (.empty capacity) := by
  rw [← loadLoop_map_some s.cache.entries (.empty capacity) false]
  simp [reloaded, LRUPersistentCache.new, LRUPersistentCache.setPersistenceHelper, LRUPersistentCache.load,
    LRUPersistentCache.set, LRUPersistentCache.setPersistedVersion, loadData, LRUInMemoryCache.new,
    convertToKeyValuePairs]

theorem reloaded_maxSize (capacity : Nat) (nSyncRetries : Int) (s : LRUInMemoryCache K V) :
    (reloaded capacity nSyncRetries s).cache.maxSize = capacity := by
  rw [reloaded_cache, foldl_set_maxSize]
  rfl

theorem reloaded_entries (capacity : Nat) (nSyncRetries : Int) (s : LRUInMemoryCache K V) :
    (reloaded capacity nSyncRetries s).cache.entries = within capacity s.cache.entries.reverse := by
  rw [reloaded_cache, CacheMap.foldl_set_entries s.cache.distinct _ (by simp [CacheMap.empty])]
  simp [CacheMap.empty]

theorem head?_within {α : Type} (maxSize : Nat) (l : List α) : (within maxSize l).head? = l.head? := by
  unfold within
  split
  · rfl
  · rename_i limited
    rw [List.head?_take, if_neg limited]

theorem within_reverse_iff {α : Type} {l : List α} (distinct : l.Nodup) (maxSize : Nat) :
    within maxSize l.reverse = within maxSize l ↔ l.length ≤ 1 := by
  constructor
  · intro same
    have ends := congrArg List.head? same
    rw [head?_within, head?_within, List.head?_reverse] at ends
    match l, distinct with
    | [], _ => exact Nat.zero_le 1
    | [a], _ => exact Nat.le_refl 1
    | a :: b :: rest, distinct =>
        rw [List.getLast?_cons_cons] at ends
        exact absurd (List.mem_of_getLast? ends) (List.nodup_cons.mp distinct).1
  · intro short
    match l, short with
    | [], _ => rfl
    | [a], _ => rfl

theorem evictions_congr {s s' : LRUInMemoryCache K V} (same : s.cache = s'.cache) (puts : List (K × V)) :
    evictions puts s = evictions puts s' := by
  induction puts generalizing s s' with
  | nil => rfl
  | cons entry puts ih =>
      rw [evictions, evictions, same, ih]
      rw [put, put, same]

theorem keepsRecency_iff (capacity capacity' : Nat) (nSyncRetries : Int) (ops : List (CacheOp K V)) :
    KeepsRecency (ops.foldl applyOp (.new capacity)) (reloaded capacity' nSyncRetries (ops.foldl applyOp (.new capacity))) ↔
      (ops.foldl applyOp (.new capacity)).cache.entries.length ≤ 1 := by
  generalize ops.foldl applyOp (.new capacity) = s
  have distinct := List.Nodup.of_map Prod.fst s.cache.distinct
  rw [← within_reverse_iff distinct capacity', KeepsRecency, reloaded_entries, reloaded_maxSize, and_iff_left_iff_imp]
  intro same maxSize puts
  apply evictions_congr
  apply CacheMap.ext
  · rw [reloaded_maxSize, maxSize]
  · rw [reloaded_entries, same, maxSize, within_eq_self s.cache.bounded]

theorem reloaded_reverses_recency :
    ([CacheOp.put 1 10, .put 2 20].foldl applyOp (.new 2 : LRUInMemoryCache Nat Nat)).cache.entries = [(2, 20), (1, 10)] ∧
      (reloaded 2 3 ([CacheOp.put 1 10, .put 2 20].foldl applyOp (.new 2 : LRUInMemoryCache Nat Nat))).cache.entries =
        [(1, 10), (2, 20)] ∧
      (reloaded 1 3 ([CacheOp.put 1 10, .put 2 20].foldl applyOp (.new 2 : LRUInMemoryCache Nat Nat))).cache.entries =
        [(1, 10)] ∧
      evictions [(3, 30)] ([CacheOp.put 1 10, .put 2 20].foldl applyOp (.new 2 : LRUInMemoryCache Nat Nat)) = [[1]] ∧
      evictions [(3, 30)]
          (reloaded 2 3 ([CacheOp.put 1 10, .put 2 20].foldl applyOp (.new 2 : LRUInMemoryCache Nat Nat))) = [[2]] :=
  ⟨rfl, rfl, rfl, rfl, rfl⟩

end Wangle.Proof.Client
