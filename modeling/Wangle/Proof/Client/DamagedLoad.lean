import Wangle.Client.LRUPersistentCache

/-!
# Loading an array with an entry that does not convert
-/

namespace Wangle.Proof.Client
open Wangle.Client Wangle.Recency LRUInMemoryCache

variable {K V : Type} [DecidableEq K] {data : Dynamic K V}

theorem loadLoop_updated (data : Dynamic K V) (cache : CacheMap K V) : (loadLoop data cache true).2 = true := by
  induction data generalizing cache with
  | nil => rfl
  | cons entry rest ih =>
      cases entry with
      | none => rfl
      | some kv => exact ih (cache.set kv.1 kv.2)

theorem loadData_eq_self (damaged : none ∈ data) {s : LRUInMemoryCache K V} :
    s.loadData data = s ↔ data.head? = some none := by
  match data, damaged with
  | none :: rest, _ => exact iff_of_true rfl rfl
  | some kv :: rest, _ =>
      refine iff_of_false (fun same => ?_) (by simp)
      have version := congrArg LRUInMemoryCache.version same
      simp [loadData, loadLoop, loadLoop_updated] at version

theorem setPersistenceHelper_cache (s : LRUPersistentCache K V) (data : Dynamic K V) (syncVersion : Bool) :
    (s.setPersistenceHelper (some (some data)) syncVersion).cache = s.cache.loadData data := by
  cases syncVersion <;>
    simp [LRUPersistentCache.setPersistenceHelper, LRUPersistentCache.load, LRUPersistentCache.set,
      LRUPersistentCache.setPersistedVersion]

/-- A damaged array leaves the cache as it was exactly if its first entry is a bad one. -/
theorem damaged_load_unchanged_iff (data : Dynamic K V) (damaged : none ∈ data) :
    (∀ s : LRUPersistentCache K V,
      (s.setPersistenceHelper (some (some data)) false).cache = s.cache ↔ data.head? = some none) ∧
    ∀ capacity nSyncRetries,
      (LRUPersistentCache.new capacity nSyncRetries (some (some data))).cache = LRUInMemoryCache.new capacity ↔
        data.head? = some none := by
  constructor
  · intro s
    rw [setPersistenceHelper_cache]
    exact loadData_eq_self damaged
  · intro capacity nSyncRetries
    rw [LRUPersistentCache.new, setPersistenceHelper_cache]
    exact loadData_eq_self damaged

theorem damaged_load_unchanged_first : none ∈ ([none, some (1, 10)] : Dynamic Nat Nat) ∧
    ∀ s : LRUPersistentCache Nat Nat, (s.setPersistenceHelper (some (some [none, some (1, 10)])) false).cache = s.cache :=
  ⟨by decide, fun s => ((damaged_load_unchanged_iff [none, some (1, 10)] (by decide)).1 s).mpr rfl⟩

/-- The entry before the bad one evicts the entry of a cache of capacity 1, and is loaded into a new cache. -/
theorem damaged_load_changes :
    (∃ s : LRUPersistentCache Nat Nat,
      LRUPersistentCache.run (.new 1 3 none) [.put 2 20] = .ok s ∧ s.cache.cache.entries = [(2, 20)] ∧ s.cache.version = 2 ∧
      (s.setPersistenceHelper (some (some [some (1, 10), none])) false).cache.cache.entries = [(1, 10)] ∧
      (s.setPersistenceHelper (some (some [some (1, 10), none])) false).cache.version = 3) ∧
    (LRUPersistentCache.new 1 3 (some (some [some (1, 10), none])) : LRUPersistentCache Nat Nat).cache.cache.entries =
      [(1, 10)] :=
  ⟨⟨_, rfl, rfl, rfl, rfl, rfl⟩, rfl⟩

end Wangle.Proof.Client
