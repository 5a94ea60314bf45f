import Mathlib.Data.List.AList

/-!
# The first value that is inserted under a key, and the latest
-/

namespace Wangle.Keyed

section Emplace
variable {K V : Type} [DecidableEq K]

abbrev Map (K V : Type) := AList fun _ : K => V

/-- The first value inserted under a key stays. -/
def emplace (k : K) (v : V) (m : Map K V) : Map K V :=
  if (m.lookup k).isSome then m else m.insert k v

theorem lookup_emplace_self (k : K) (v : V) (m : Map K V) : (emplace k v m).lookup k = some ((m.lookup k).getD v) := by
  unfold emplace
  cases found : m.lookup k with
  | none => simp
  | some w => simp [found]

theorem lookup_emplace_of_ne {k k' : K} (other : k' ≠ k) (v : V) (m : Map K V) :
    (emplace k v m).lookup k' = m.lookup k' := by
  unfold emplace
  split
  · rfl
  · exact AList.lookup_insert_ne other

end Emplace

section Latest
variable {α : Type} {p q : α → Prop} [DecidablePred p] [DecidablePred q] {l : List α}

def latest (p : α → Prop) [DecidablePred p] (l : List α) : Option α := l.reverse.find? fun a => decide (p a)

@[simp] theorem latest_nil : latest p [] = none := rfl

theorem latest_concat (a : α) (l : List α) : latest p (l ++ [a]) = if p a then some a else latest p l := by
  by_cases satisfied : p a <;> simp [latest, satisfied]

theorem latest_eq_none : latest p l = none ↔ ∀ a ∈ l, ¬ p a := by
  simp [latest]

theorem latest_some {a : α} (found : latest p l = some a) : a ∈ l ∧ p a := by
  obtain ⟨holds, -⟩ := List.find?_eq_some_iff_append.mp found
  exact ⟨List.mem_reverse.mp (List.mem_of_find?_eq_some found), by simpa using holds⟩

theorem latest_of_imp {a : α} (weaker : ∀ a ∈ l, q a → p a) (found : latest p l = some a) (holds : q a) :
    latest q l = some a := by
  obtain ⟨-, front, back, split, earlier⟩ := List.find?_eq_some_iff_append.mp found
  refine List.find?_eq_some_iff_append.mpr ⟨by simpa using holds, front, back, split, fun b member => ?_⟩
  have later : b ∈ l := List.mem_reverse.mp (split ▸ List.mem_append_left _ member)
  have not := earlier b member
  simp only [Bool.not_eq_eq_eq_not, Bool.not_true, decide_eq_false_iff_not] at not ⊢
  exact fun satisfied => not (weaker b later satisfied)

theorem latest_map {β : Type} (f : β → α) (l : List β) :
    latest p (l.map f) = (latest (fun b => p (f b)) l).map f := by
  simp only [latest, ← List.map_reverse, List.find?_map]
  rfl

theorem latest_filter (l : List α) : latest p (l.filter fun a => decide (q a)) = latest (fun a => q a ∧ p a) l := by
  simp [latest, ← List.filter_reverse, List.find?_filter]

end Latest

end Wangle.Keyed
