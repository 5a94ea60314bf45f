import Mathlib.Data.List.Nodup

/-!
# Maps that evict the least recently used key

What is assumed of a `folly::EvictingCacheMap` that clears one entry at a time: its entries go from the most to the
least recently used one, `set` and `find` move an entry to the front, `set` evicts from the back, and a `maxSize` of 0 is
no limit.
-/

namespace Wangle.Recency

def within {α : Type} (maxSize : Nat) (l : List α) : List α := if maxSize = 0 then l else l.take maxSize

structure CacheMap (K V : Type) where
  maxSize : Nat
  entries : List (K × V)
  distinct : (entries.map Prod.fst).Nodup
  bounded : maxSize ≠ 0 → entries.length ≤ maxSize

section within
variable {α : Type} {maxSize : Nat} {l : List α}

theorem within_sublist (maxSize : Nat) (l : List α) : (within maxSize l).Sublist l := by
  unfold within
  split
  · exact List.Sublist.refl l
  · exact List.take_sublist maxSize l

theorem length_within_le (limited : maxSize ≠ 0) : (within maxSize l).length ≤ maxSize := by
  rw [within, if_neg limited]
  exact List.length_take_le maxSize l

theorem within_eq_self (room : maxSize ≠ 0 → l.length ≤ maxSize) : within maxSize l = l := by
  unfold within
  split
  · rfl
  · rename_i limited
    exact List.take_of_length_le (room limited)

theorem within_append_within (maxSize : Nat) (front l : List α) :
    within maxSize (front ++ within maxSize l) = within maxSize (front ++ l) := by
  unfold within
  split
  · rfl
  · rw [List.take_append, List.take_append, List.take_take, Nat.min_eq_left (Nat.sub_le ..)]

end within

namespace CacheMap
variable {K V : Type}

@[ext] theorem ext {m m' : CacheMap K V} (maxSize : m.maxSize = m'.maxSize) (entries : m.entries = m'.entries) :
    m = m' := by
  cases m
  cases m'
  cases maxSize
  cases entries
  rfl

def empty (maxSize : Nat) : CacheMap K V := ⟨maxSize, [], List.nodup_nil, fun _ => Nat.zero_le _⟩

variable [DecidableEq K]

def without (k : K) (entries : List (K × V)) : List (K × V) := entries.filter (·.1 ≠ k)

theorem without_distinct {entries : List (K × V)} (distinct : (entries.map Prod.fst).Nodup) (k : K) :
    ((without k entries).map Prod.fst).Nodup :=
  distinct.sublist (List.filter_sublist.map Prod.fst)

theorem cons_without_distinct {entries : List (K × V)} (distinct : (entries.map Prod.fst).Nodup) (k : K) (v : V) :
    (((k, v) :: without k entries).map Prod.fst).Nodup := by
  rw [List.map_cons, List.nodup_cons]
  refine ⟨?_, without_distinct distinct k⟩
  simp [without]

theorem length_without_le (k : K) (entries : List (K × V)) : (without k entries).length ≤ entries.length :=
  List.length_filter_le ..

theorem length_without_lt {entries : List (K × V)} {entry : K × V} (member : entry ∈ entries) :
    (without entry.1 entries).length < entries.length := by
  apply List.length_filter_lt_length_iff_exists.mpr
  exact ⟨entry, member, by simp⟩

def set (k : K) (v : V) (m : CacheMap K V) : CacheMap K V where
  maxSize := m.maxSize
  entries := within m.maxSize ((k, v) :: without k m.entries)
  distinct := (cons_without_distinct m.distinct k v).sublist ((within_sublist ..).map Prod.fst)
  bounded := length_within_le

def evicted (k : K) (v : V) (m : CacheMap K V) : List K :=
  (((k, v) :: without k m.entries).drop (m.set k v).entries.length).map Prod.fst

def find (k : K) (m : CacheMap K V) : Option V × CacheMap K V :=
  match found : m.entries.find? (·.1 = k) with
  | none => (none, m)
  | some entry => (some entry.2, {
      maxSize := m.maxSize
      entries := (k, entry.2) :: without k m.entries
      distinct := cons_without_distinct m.distinct k entry.2
      bounded := by
        intro limited
        have same : entry.1 = k := by simpa using List.find?_some found
        have fewer := length_without_lt (List.mem_of_find?_eq_some found)
        rw [same] at fewer
        exact Nat.le_trans fewer (m.bounded limited) })

def erase (k : K) (m : CacheMap K V) : CacheMap K V where
  maxSize := m.maxSize
  entries := without k m.entries
  distinct := without_distinct m.distinct k
  bounded := fun limited => Nat.le_trans (length_without_le ..) (m.bounded limited)

def contains (k : K) (m : CacheMap K V) : Bool := m.entries.any (·.1 = k)

def clear (m : CacheMap K V) : CacheMap K V := empty m.maxSize

theorem without_eq_self {k : K} {entries : List (K × V)} (absent : k ∉ entries.map Prod.fst) :
    without k entries = entries := by
  apply List.filter_eq_self.mpr
  intro entry member
  have other : entry.1 ≠ k := fun same => absent (same ▸ List.mem_map_of_mem member)
  simpa using other

theorem cons_without_perm {entries : List (K × V)} (distinct : (entries.map Prod.fst).Nodup) {k : K} {v : V}
    (member : (k, v) ∈ entries) : ((k, v) :: without k entries).Perm entries := by
  have nodup := List.Nodup.of_map Prod.fst (cons_without_distinct distinct k v)
  apply (List.perm_ext_iff_of_nodup nodup (List.Nodup.of_map Prod.fst distinct)).mpr
  intro entry
  rw [List.mem_cons, without, List.mem_filter, decide_eq_true_eq]
  constructor
  · rintro (rfl | ⟨other, -⟩)
    · exact member
    · exact other
  · intro known
    by_cases same : entry.1 = k
    · exact .inl (List.inj_on_of_nodup_map distinct known member same)
    · exact .inr ⟨known, same⟩

theorem find_perm (k : K) (m : CacheMap K V) : (m.find k).2.entries.Perm m.entries := by
  unfold find
  split
  · exact List.Perm.refl _
  · rename_i entry found
    have same : entry.1 = k := by simpa using List.find?_some found
    subst same
    exact cons_without_perm m.distinct (List.mem_of_find?_eq_some found)

theorem foldl_set_entries {l : List (K × V)} (distinct : (l.map Prod.fst).Nodup) (m : CacheMap K V)
    (apart : ∀ k ∈ l.map Prod.fst, k ∉ m.entries.map Prod.fst) :
    (l.foldl (fun m entry => m.set entry.1 entry.2) m).entries = within m.maxSize (l.reverse ++ m.entries) := by
  induction l generalizing m with
  | nil => exact (within_eq_self m.bounded).symm
  | cons entry rest ih =>
      rw [List.map_cons, List.nodup_cons] at distinct
      have fresh := apart entry.1 (by simp)
      have entries : (m.set entry.1 entry.2).entries = within m.maxSize (entry :: m.entries) := by
        show within m.maxSize (entry :: without entry.1 m.entries) = _
        rw [without_eq_self fresh]
      rw [List.foldl_cons, ih distinct.2, entries]
      · show within m.maxSize _ = _
        rw [within_append_within, List.reverse_cons, List.append_assoc, List.singleton_append]
      · intro k later
        rw [entries]
        intro known
        have earlier := ((within_sublist ..).map Prod.fst).subset known
        rcases List.mem_cons.mp earlier with rfl | old
        · exact distinct.1 later
        · exact apart k (List.mem_cons_of_mem _ later) old

end CacheMap
end Wangle.Recency
