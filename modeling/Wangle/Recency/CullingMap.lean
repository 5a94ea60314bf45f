import Wangle.Recency.CacheMap

/-!
# Maps that evict several entries at once

What is assumed of a `folly::EvictingCacheMap` with a `clearSize`: once `set` has made it larger than `maxSize`, it loses
so many of its least recently used entries, of which the one just set can be one.
-/

namespace Wangle.Recency

structure CullingMap (K V : Type) where
  maxSize : Nat
  clearSize : Nat
  entries : List (K × V) := []
  distinct : (entries.map Prod.fst).Nodup := by simp

namespace CullingMap
open CacheMap (without)

variable {K V : Type} [DecidableEq K]

def get? (k : K) (m : CullingMap K V) : Option V := (m.entries.find? (·.1 = k)).map Prod.snd

def values (m : CullingMap K V) : List V := m.entries.map Prod.snd

def promote (k : K) (v : V) (m : CullingMap K V) : CullingMap K V :=
  { m with entries := (k, v) :: without k m.entries, distinct := CacheMap.cons_without_distinct m.distinct k v }

def find (k : K) (m : CullingMap K V) : Option V × CullingMap K V :=
  match m.get? k with
  | none => (none, m)
  | some v => (some v, m.promote k v)

def overfull (m : CullingMap K V) : Bool := m.maxSize > 0 && m.entries.length > m.maxSize

/-- The entries that are left, and the evicted ones, from the least recent one on. -/
def prune (m : CullingMap K V) : CullingMap K V × List (K × V) :=
  let left := m.entries.length - m.clearSize
  ({ m with
      entries := m.entries.take left
      distinct := m.distinct.sublist ((List.take_sublist left m.entries).map Prod.fst) },
    (m.entries.drop left).reverse)

def set (k : K) (v : V) (m : CullingMap K V) : CullingMap K V × List (K × V) :=
  if (m.get? k).isSome then (m.promote k v, [])
  else if (m.promote k v).overfull then (m.promote k v).prune
  else (m.promote k v, [])

def erase (k : K) (m : CullingMap K V) : CullingMap K V :=
  { m with entries := without k m.entries, distinct := CacheMap.without_distinct m.distinct k }

variable {k : K} {v : V} {m : CullingMap K V}

omit [DecidableEq K] in
theorem overfull_iff : m.overfull ↔ 0 < m.maxSize ∧ m.maxSize < m.entries.length := by
  simp [overfull]

theorem get?_eq_some : m.get? k = some v ↔ (k, v) ∈ m.entries := by
  constructor
  · intro found
    obtain ⟨⟨k', v'⟩, isFirst, rfl⟩ := Option.map_eq_some_iff.mp found
    have same : k' = k := by simpa using List.find?_some isFirst
    exact same ▸ List.mem_of_find?_eq_some isFirst
  · intro member
    cases isFirst : m.entries.find? (·.1 = k) with
    | none => simpa using List.find?_eq_none.mp isFirst (k, v) member
    | some entry =>
        have same : entry.1 = k := by simpa using List.find?_some isFirst
        rw [get?, isFirst, List.inj_on_of_nodup_map m.distinct (List.mem_of_find?_eq_some isFirst) member same]
        rfl

theorem get?_eq_none : m.get? k = none ↔ k ∉ m.entries.map Prod.fst := by
  rw [Option.eq_none_iff_forall_ne_some]
  constructor
  · intro none member
    obtain ⟨⟨k', v⟩, known, rfl⟩ := List.mem_map.mp member
    exact none v (get?_eq_some.mpr known)
  · exact fun absent v found => absent (List.mem_map_of_mem (get?_eq_some.mp found))

theorem find_fst (k : K) (m : CullingMap K V) : (m.find k).1 = m.get? k := by
  unfold find
  cases m.get? k with
  | none => rfl
  | some v => rfl

theorem get?_promote (k : K) (v : V) (m : CullingMap K V) (k' : K) :
    (m.promote k v).get? k' = if k' = k then some v else m.get? k' := by
  by_cases same : k' = k
  · subst same
    simp [promote, get?]
  · rw [if_neg same, Option.ext_iff]
    intro v'
    rw [get?_eq_some, get?_eq_some]
    simp [promote, without, same]

theorem get?_erase (k : K) (m : CullingMap K V) (k' : K) :
    (m.erase k).get? k' = if k' = k then none else m.get? k' := by
  rw [Option.ext_iff]
  intro v'
  by_cases same : k' = k
  · rw [if_pos same, get?_eq_some]
    simp [erase, without, same]
  · rw [if_neg same, get?_eq_some, get?_eq_some]
    simp [erase, without, same]

theorem get?_find (k : K) (m : CullingMap K V) (k' : K) : (m.find k).2.get? k' = m.get? k' := by
  unfold find
  cases found : m.get? k with
  | none => rfl
  | some v =>
      rw [get?_promote]
      split
      · rename_i same
        rw [same, found]
      · rfl

theorem get?_prune (m : CullingMap K V) (k : K) : m.prune.1.get? k = none ∨ m.prune.1.get? k = m.get? k := by
  cases found : m.prune.1.get? k with
  | none => exact .inl rfl
  | some v =>
      have left := List.mem_of_mem_take (get?_eq_some.mp found)
      exact .inr (get?_eq_some.mpr left).symm

theorem get?_prune_of_none_evicted (kept : m.prune.2 = []) (k : K) : m.prune.1.get? k = m.get? k := by
  have whole := List.take_append_drop (m.entries.length - m.clearSize) m.entries
  rw [List.reverse_eq_nil_iff.mp kept, List.append_nil] at whole
  have same : m.prune.1.entries = m.entries := whole
  rw [get?, same, get?]

theorem get?_set (k : K) (v : V) (m : CullingMap K V) (k' : K) :
    (m.set k v).1.get? k' = none ∨ (m.set k v).1.get? k' = if k' = k then some v else m.get? k' := by
  rw [← get?_promote]
  unfold set
  split
  · exact .inr rfl
  · split
    · exact get?_prune _ k'
    · exact .inr rfl

theorem get?_set_of_none_evicted (kept : (m.set k v).2 = []) (k' : K) :
    (m.set k v).1.get? k' = if k' = k then some v else m.get? k' := by
  rw [← get?_promote]
  unfold set at kept ⊢
  split
  · rfl
  · split
    · rename_i absent full
      rw [if_neg absent, if_pos full] at kept
      exact get?_prune_of_none_evicted kept k'
    · rfl

/-- The value that is set is evicted only by a map that clears more than it can hold. -/
theorem get?_set_self (room : m.clearSize ≤ m.maxSize) (k : K) (v : V) : (m.set k v).1.get? k = some v := by
  have promoted : (m.promote k v).get? k = some v := by rw [get?_promote, if_pos rfl]
  unfold set
  split
  · exact promoted
  · split
    · rename_i full
      have longer : m.maxSize < (without k m.entries).length + 1 := (overfull_iff.mp full).2
      obtain ⟨left, isLeft⟩ : ∃ left, (without k m.entries).length + 1 - m.clearSize = left + 1 :=
        Nat.exists_eq_succ_of_ne_zero (by omega)
      rw [get?_eq_some]
      simp [prune, promote, isLeft]
    · exact promoted

theorem find_sizes (k : K) (m : CullingMap K V) :
    (m.find k).2.maxSize = m.maxSize ∧ (m.find k).2.clearSize = m.clearSize := by
  unfold find
  split <;> exact ⟨rfl, rfl⟩

theorem set_sizes (k : K) (v : V) (m : CullingMap K V) :
    (m.set k v).1.maxSize = m.maxSize ∧ (m.set k v).1.clearSize = m.clearSize := by
  unfold set
  split
  · exact ⟨rfl, rfl⟩
  · split <;> exact ⟨rfl, rfl⟩

theorem length_promote_le (k : K) (v : V) (m : CullingMap K V) : (m.promote k v).entries.length ≤ m.entries.length + 1 :=
  Nat.succ_le_succ (CacheMap.length_without_le ..)

theorem length_promote_of_some (found : (m.get? k).isSome) (v : V) :
    (m.promote k v).entries.length ≤ m.entries.length := by
  obtain ⟨old, isOld⟩ := Option.isSome_iff_exists.mp found
  exact CacheMap.length_without_lt (get?_eq_some.mp isOld)

theorem length_find_le (k : K) (m : CullingMap K V) : (m.find k).2.entries.length ≤ m.entries.length := by
  unfold find
  cases found : m.get? k with
  | none => exact Nat.le_refl _
  | some v => exact length_promote_of_some (by simp [found]) v

theorem length_set_le (limited : 0 < m.maxSize) (clears : 0 < m.clearSize) (bounded : m.entries.length ≤ m.maxSize)
    (k : K) (v : V) : (m.set k v).1.entries.length ≤ m.maxSize := by
  have longer := length_promote_le k v m
  unfold set
  split
  · rename_i found
    exact Nat.le_trans (length_promote_of_some found v) bounded
  · split
    · simp only [prune, List.length_take]
      change min ((m.promote k v).entries.length - m.clearSize) _ ≤ _
      omega
    · rename_i room
      exact Nat.le_of_not_lt fun longer => room (overfull_iff.mpr ⟨limited, longer⟩)

theorem promote_values (k : K) (v : V) (m : CullingMap K V) :
    ((m.promote k v).values ++ (m.get? k).toList).Perm (v :: m.values) := by
  cases found : m.get? k with
  | none =>
      have same : without k m.entries = m.entries := CacheMap.without_eq_self (get?_eq_none.mp found)
      simp [promote, values, same]
  | some old =>
      have perm := (CacheMap.cons_without_perm m.distinct (get?_eq_some.mp found)).map Prod.snd
      simp only [promote, values, List.map_cons, Option.toList_some, List.cons_append]
      exact (List.perm_append_singleton old _).trans perm |>.cons v

theorem find_values (k : K) (m : CullingMap K V) : (m.find k).2.values.Perm m.values := by
  unfold find
  cases found : m.get? k with
  | none => exact List.Perm.refl _
  | some v =>
      have perm := promote_values k v m
      rw [found, Option.toList_some] at perm
      exact (List.perm_cons v).mp ((List.perm_append_singleton v _).symm.trans perm)

omit [DecidableEq K] in
theorem prune_values (m : CullingMap K V) : (m.prune.1.values ++ m.prune.2.map Prod.snd).Perm m.values := by
  have reversed := (List.reverse_perm (m.entries.drop (m.entries.length - m.clearSize))).map Prod.snd
  refine (List.Perm.append_left _ reversed).trans ?_
  rw [values, prune, ← List.map_append, List.take_append_drop]
  exact List.Perm.refl _

theorem set_values (k : K) (v : V) (m : CullingMap K V) :
    ((m.set k v).1.values ++ (m.get? k).toList ++ (m.set k v).2.map Prod.snd).Perm (v :: m.values) := by
  have promoted := promote_values k v m
  unfold set
  cases found : m.get? k with
  | some old =>
      rw [found] at promoted
      simpa using promoted
  | none =>
      rw [found] at promoted
      simp only [Option.toList_none, List.append_nil] at promoted ⊢
      simp only [Option.isSome_none, Bool.false_eq_true, if_false]
      split
      · exact (prune_values _).trans promoted
      · simpa using promoted

theorem erase_values (k : K) (m : CullingMap K V) : ((m.erase k).values ++ (m.get? k).toList).Perm m.values := by
  cases found : m.get? k with
  | none =>
      have same : without k m.entries = m.entries := CacheMap.without_eq_self (get?_eq_none.mp found)
      simp [erase, values, same]
  | some old =>
      have perm := (CacheMap.cons_without_perm m.distinct (get?_eq_some.mp found)).map Prod.snd
      exact (List.perm_append_singleton old _).trans perm

end CullingMap
end Wangle.Recency
