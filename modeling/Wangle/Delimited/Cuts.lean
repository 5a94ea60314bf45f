import Mathlib.Init

/-!
# Cutting a list at delimiters

A list is cut into pieces at some of its delimiters. Only the last piece, which is what was not cut, can hold one.
-/

namespace Wangle.Delimited

variable {α : Type} {p : α → Bool} {l : List α} {pieces : List (List α)}

def interleave : List (List α) → List α → List α
  | [], _ => []
  | [piece], _ => piece
  | piece :: pieces, [] => piece ++ interleave pieces []
  | piece :: pieces, c :: cuts => piece ++ c :: interleave pieces cuts

inductive Cuts (p : α → Bool) : List α → List (List α) → Prop
  | last (rest : List α) : Cuts p rest [rest]
  | cut {piece rest : List α} {c : α} {pieces : List (List α)} (free : ∀ x ∈ piece, p x = false) (delimiter : p c = true)
      (later : Cuts p rest pieces) : Cuts p (piece ++ c :: rest) (piece :: pieces)

theorem Cuts.ne_nil (cuts : Cuts p l pieces) : pieces ≠ [] := by
  cases cuts with
  | last => exact List.cons_ne_nil _ _
  | cut free delimiter later => exact List.cons_ne_nil _ _

theorem interleave_cons {piece : List α} {c : α} {between : List α} (more : pieces ≠ []) :
    interleave (piece :: pieces) (c :: between) = piece ++ c :: interleave pieces between := by
  cases pieces with
  | nil => exact absurd rfl more
  | cons next pieces => rfl

theorem Cuts.interleaved (cuts : Cuts p l pieces) :
    ∃ between, (∀ c ∈ between, p c = true) ∧ pieces.length = between.length + 1 ∧ interleave pieces between = l := by
  induction cuts with
  | last rest => exact ⟨[], by simp, rfl, rfl⟩
  | @cut piece rest c pieces free delimiter later ih =>
      obtain ⟨between, delimiters, length, whole⟩ := ih
      refine ⟨c :: between, ?_, by simp [length], ?_⟩
      · intro x member
        obtain rfl | member := List.mem_cons.mp member
        · exact delimiter
        · exact delimiters x member
      · rw [interleave_cons later.ne_nil, whole]

theorem Cuts.free (cuts : Cuts p l pieces) : ∀ piece ∈ pieces.dropLast, ∀ x ∈ piece, p x = false := by
  induction cuts with
  | last rest => simp
  | cut free delimiter later ih =>
      intro piece member
      rw [List.dropLast_cons_of_ne_nil later.ne_nil] at member
      obtain rfl | member := List.mem_cons.mp member
      · exact free
      · exact ih piece member

theorem free_or_first (p : α → Bool) (l : List α) :
    (∀ x ∈ l, p x = false) ∨
      ∃ piece c rest, l = piece ++ c :: rest ∧ (∀ x ∈ piece, p x = false) ∧ p c = true := by
  cases found : l.find? p with
  | none => exact .inl fun x member => by simpa using List.find?_eq_none.mp found x member
  | some c =>
      obtain ⟨delimiter, piece, rest, split, free⟩ := List.find?_eq_some_iff_append.mp found
      exact .inr ⟨piece, c, rest, split, fun x member => by simpa using free x member, delimiter⟩

theorem delimited_induction {motive : List α → Prop} (free : ∀ rest, (∀ x ∈ rest, p x = false) → motive rest)
    (cut : ∀ piece c rest, (∀ x ∈ piece, p x = false) → p c = true → motive rest → motive (piece ++ c :: rest))
    (l : List α) : motive l := by
  induction h : l.length using Nat.strongRecOn generalizing l with
  | ind n ih =>
      obtain none | ⟨piece, c, rest, rfl, isFree, delimiter⟩ := free_or_first p l
      · exact free l none
      · refine cut piece c rest isFree delimiter (ih rest.length ?_ rest rfl)
        rw [← h, List.length_append, List.length_cons]
        omega

theorem free_of_mem_splitOnP : ∀ piece ∈ l.splitOnP p, ∀ x ∈ piece, p x = false := by
  induction l using delimited_induction (p := p) with
  | free rest free =>
      rw [List.splitOnP_eq_singleton free]
      simpa using free
  | cut first c rest free delimiter ih =>
      intro piece member
      rw [List.splitOnP_append_cons_of_forall_mem free c delimiter] at member
      obtain rfl | member := List.mem_cons.mp member
      · exact free
      · exact ih piece member

theorem countP_of_free (free : ∀ x ∈ l, p x = false) : l.countP p = 0 := by
  apply List.countP_eq_zero.mpr
  intro x member
  simp [free x member]

theorem countP_cut {piece rest : List α} {c : α} (free : ∀ x ∈ piece, p x = false) (delimiter : p c = true) :
    (piece ++ c :: rest).countP p = rest.countP p + 1 := by
  rw [List.countP_append, List.countP_cons_of_pos delimiter, countP_of_free free, Nat.zero_add]

theorem length_splitOnP : (l.splitOnP p).length = 1 + l.countP p := by
  induction l using delimited_induction (p := p) with
  | free rest free =>
      rw [List.splitOnP_eq_singleton free, countP_of_free free]
      rfl
  | cut first c rest free delimiter ih =>
      rw [List.splitOnP_append_cons_of_forall_mem free c delimiter, List.length_cons, ih, countP_cut free delimiter,
        Nat.add_assoc]

end Wangle.Delimited
