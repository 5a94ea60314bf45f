import Mathlib.Data.List.Basic
import Mathlib.Data.List.Nodup

/-!
# The order of two elements of a list
-/

namespace Wangle.Linked

variable {α : Type}

def Precedes (a b : α) (l : List α) : Prop := [a, b].Sublist l

instance [DecidableEq α] (a b : α) (l : List α) : Decidable (Precedes a b l) :=
  inferInstanceAs (Decidable ([a, b].Sublist l))

namespace Precedes
variable {a b c : α} {l : List α}

theorem left_mem (precedes : Precedes a b l) : a ∈ l := precedes.subset (by simp)

theorem right_mem (precedes : Precedes a b l) : b ∈ l := precedes.subset (by simp)

theorem concat : Precedes a b (l ++ [c]) ↔ Precedes a b l ∨ (a ∈ l ∧ b = c) := by
  constructor
  · intro precedes
    obtain ⟨front, back, split, inFront, inBack⟩ := List.sublist_append_iff.mp precedes
    cases front with
    | nil =>
        rw [List.nil_append] at split
        subst split
        exact absurd inBack.length_le (by simp)
    | cons x front =>
        cases front with
        | nil =>
            simp only [List.cons_append, List.nil_append, List.cons.injEq] at split
            obtain ⟨rfl, rfl⟩ := split
            exact .inr ⟨List.singleton_sublist.mp inFront, List.mem_singleton.mp (List.singleton_sublist.mp inBack)⟩
        | cons y front =>
            simp only [List.cons_append, List.cons.injEq, List.nil_eq, List.append_eq_nil_iff] at split
            obtain ⟨rfl, rfl, rfl, rfl⟩ := split
            exact .inl inFront
  · rintro (precedes | ⟨member, rfl⟩)
    · exact precedes.trans (List.sublist_append_left _ _)
    · exact (List.singleton_sublist.mpr member).append (List.Sublist.refl [b])

theorem erase [DecidableEq α] (nodup : l.Nodup) :
    Precedes a b (l.erase c) ↔ Precedes a b l ∧ a ≠ c ∧ b ≠ c := by
  constructor
  · intro precedes
    have absent : c ∉ l.erase c := fun member => (nodup.mem_erase_iff.mp member).1 rfl
    refine ⟨precedes.trans List.erase_sublist, ?_, ?_⟩
    · rintro rfl
      exact absent precedes.left_mem
    · rintro rfl
      exact absent precedes.right_mem
  · rintro ⟨precedes, first, second⟩
    have kept := List.Sublist.erase c precedes
    rwa [List.erase_of_not_mem (by simp [Ne.symm first, Ne.symm second])] at kept

theorem total (left : a ∈ l) (right : b ∈ l) (other : a ≠ b) : Precedes a b l ∨ Precedes b a l := by
  induction l with
  | nil => cases left
  | cons x l ih =>
      rcases List.mem_cons.mp left with rfl | inLeft
      · have later := (List.mem_cons.mp right).resolve_left (Ne.symm other)
        exact .inl ((List.singleton_sublist.mpr later).cons_cons a)
      · rcases List.mem_cons.mp right with rfl | inRight
        · exact .inr ((List.singleton_sublist.mpr inLeft).cons_cons b)
        · exact (ih inLeft inRight).imp (·.cons x) (·.cons x)

end Precedes
end Wangle.Linked
