import Mathlib.Data.List.Basic
import Mathlib.Data.List.Nodup
import Mathlib.Data.List.TakeWhile

/-!
# Iterators of intrusive lists

An iterator is the node it stands on, and `none` is the end. It stays on its node when the node is
moved, and has to be moved on before the node is removed.
-/

namespace Wangle.Intrusive

variable {α : Type}

/-- The iterator divides the list into the nodes before it and those from it on. -/
structure Divides (l : List α) (it : Option α) (before after : List α) : Prop where
  eq : l = before ++ after
  stands : it = after.head?

namespace Divides
variable {l before after : List α} {it : Option α}

theorem mem (divides : Divides l it before after) : ∀ c, it = some c → c ∈ l := by
  obtain ⟨rfl, rfl⟩ := divides
  intro c stands
  exact List.mem_append_right _ (List.mem_of_mem_head? stands)

theorem at_drop (l : List α) (n : Nat) : Divides l (l.drop n).head? (l.take n) (l.drop n) :=
  ⟨(List.take_append_drop n l).symm, rfl⟩

theorem push_front (divides : Divides l it before after) (c : α) : Divides (c :: l) it (c :: before) after :=
  ⟨by rw [divides.eq, List.cons_append], divides.stands⟩

theorem push_back (divides : Divides l it before after) (inside : it ≠ none) (c : α) :
    Divides (l ++ [c]) it before (after ++ [c]) := by
  obtain ⟨rfl, rfl⟩ := divides
  refine ⟨List.append_assoc _ _ _, ?_⟩
  cases after with
  | nil => exact absurd rfl inside
  | cons x after => rfl

end Divides

variable [DecidableEq α]

theorem erase_append_of_not_mem {c : α} {l r : List α} (absent : c ∉ r) : (l ++ r).erase c = l.erase c ++ r := by
  by_cases front : c ∈ l
  · exact List.erase_append_left r front
  · rw [List.erase_append_right r front, List.erase_of_not_mem absent, List.erase_of_not_mem front]

def onward : Option α → List α → List α
  | none, _ => []
  | some c, l => l.dropWhile (· ≠ c)

def next (c : α) (l : List α) : Option α := (onward (some c) l).tail.head?

theorem onward_cons {c : α} {before after : List α} (fresh : c ∉ before) :
    onward (some c) (before ++ c :: after) = c :: after := by
  have skipped : ∀ x ∈ before, decide (x ≠ c) = true := by
    intro x member
    exact decide_eq_true fun equal => fresh (equal ▸ member)
  rw [onward, List.dropWhile_append_of_pos skipped]
  simp

theorem onward_sublist (it : Option α) (l : List α) : (onward it l).Sublist l := by
  cases it with
  | none => exact List.nil_sublist l
  | some c => exact List.dropWhile_sublist _

theorem exists_divides {l : List α} {it : Option α} (stands : ∀ c, it = some c → c ∈ l) :
    ∃ before, Divides l it before (onward it l) := by
  cases it with
  | none => exact ⟨l, by simp [onward], rfl⟩
  | some c =>
      obtain ⟨before, after, rfl, fresh⟩ := List.eq_append_cons_of_mem (stands c rfl)
      rw [onward_cons fresh]
      exact ⟨before, rfl, rfl⟩

namespace Divides
variable {l before after : List α} {it : Option α}

theorem onward_eq (divides : Divides l it before after) (nodup : l.Nodup) : onward it l = after := by
  obtain ⟨rfl, rfl⟩ := divides
  cases after with
  | nil => rfl
  | cons c after =>
      exact onward_cons fun member => List.disjoint_of_nodup_append nodup member List.mem_cons_self

theorem erase (divides : Divides l it before after) (nodup : l.Nodup) (c : α) :
    Divides (l.erase c) (if it = some c then next c l else it) (before.erase c) (after.erase c) := by
  obtain ⟨rfl, rfl⟩ := divides
  have disjoint := List.disjoint_of_nodup_append nodup
  by_cases front : c ∈ before
  · have absent : c ∉ after := fun member => disjoint front member
    have elsewhere : after.head? ≠ some c := fun stands => absent (List.mem_of_mem_head? stands)
    rw [if_neg elsewhere, List.erase_of_not_mem absent]
    exact ⟨List.erase_append_left after front, rfl⟩
  · rw [List.erase_of_not_mem front]
    refine ⟨List.erase_append_right after front, ?_⟩
    cases after with
    | nil => simp
    | cons x after =>
        by_cases equal : x = c
        · subst equal
          simp [next, onward_cons front]
        · simp [equal]

end Divides

/-! ## Removing nodes -/

theorem filter_mem_of_sublist {l l' : List α} (sublist : l'.Sublist l) (nodup : l.Nodup) :
    l.filter (· ∈ l') = l' := by
  induction sublist with
  | slnil => rfl
  | @cons l' l c sublist ih =>
      obtain ⟨fresh, nodup⟩ := List.nodup_cons.mp nodup
      have absent : c ∉ l' := fun member => fresh (sublist.subset member)
      rw [List.filter_cons_of_neg (by simpa using absent), ih nodup]
  | @cons_cons l' l c sublist ih =>
      obtain ⟨fresh, nodup⟩ := List.nodup_cons.mp nodup
      rw [List.filter_cons_of_pos (by simp)]
      have others : l.filter (· ∈ c :: l') = l.filter (· ∈ l') := by
        refine List.filter_congr fun x member => ?_
        have other : x ≠ c := fun same => fresh (same ▸ member)
        simp [other]
      rw [others, ih nodup]

namespace Divides
variable {l before after : List α} {it : Option α}

theorem advance {c : α} {tail : List α} (divides : Divides l (some c) before (c :: tail)) (nodup : l.Nodup) :
    Divides l (next c l) (before ++ [c]) tail := by
  refine ⟨by rw [divides.eq, List.append_assoc, List.singleton_append], ?_⟩
  rw [next, divides.onward_eq nodup, List.tail_cons]

theorem sublist {l' : List α} (divides : Divides l it before after) (sublist : l'.Sublist l) (nodup : l.Nodup)
    (stands : ∀ c, it = some c → c ∈ l') :
    Divides l' it (before.filter (· ∈ l')) (after.filter (· ∈ l')) := by
  obtain ⟨rfl, rfl⟩ := divides
  refine ⟨by rw [← List.filter_append, filter_mem_of_sublist sublist nodup], ?_⟩
  cases after with
  | nil => rfl
  | cons c after => rw [List.filter_cons_of_pos (by simpa using stands c rfl), List.head?_cons, List.head?_cons]

end Divides

/-! ## Moving a node -/

theorem onward_push_front_new {c : α} {it : Option α} {l : List α} (stands : ∀ x, it = some x → x ∈ l)
    (fresh : c ∉ l) (nodup : l.Nodup) : onward it (c :: l) = onward it l := by
  obtain ⟨before, divides⟩ := exists_divides stands
  exact (divides.push_front c).onward_eq (List.nodup_cons.mpr ⟨fresh, nodup⟩)

theorem onward_move_front_of_ne {c : α} {it : Option α} {l : List α} (nodup : l.Nodup)
    (stands : ∀ x, it = some x → x ∈ l) (other : it ≠ some c) :
    onward it (c :: l.erase c) = (onward it l).erase c := by
  obtain ⟨before, divides⟩ := exists_divides stands
  have moved := (divides.erase nodup c).push_front c
  rw [if_neg other] at moved
  have fresh : c ∉ l.erase c := fun member => (nodup.mem_erase_iff.mp member).1 rfl
  exact moved.onward_eq (List.nodup_cons.mpr ⟨fresh, nodup.erase c⟩)

theorem onward_move_front {c x : α} {it : Option α} {l : List α} (nodup : l.Nodup)
    (stands : ∀ x, it = some x → x ∈ l) (ahead : x ∈ onward it l) (stays : x = c → it = some c) :
    x ∈ onward it (c :: l.erase c) := by
  by_cases own : it = some c
  · subst own
    rw [← List.nil_append (c :: l.erase c), onward_cons (by simp), List.mem_cons]
    by_cases same : x = c
    · exact .inl same
    · exact .inr ((List.mem_erase_of_ne same).mpr ((onward_sublist _ _).subset ahead))
  · rw [onward_move_front_of_ne nodup stands own]
    exact (List.mem_erase_of_ne fun same => own (stays same)).mpr ahead

/-- A node that is moved to the back comes last for every iterator, if its own iterator is moved on, and
back from the end. -/
theorem onward_move_back_of_some {c y : α} {it : Option α} {l : List α} (nodup : l.Nodup)
    (stands : ∀ x, it = some x → x ∈ l) (inside : it = some y) :
    onward (if it = some c then (next c l).or (some c) else it) (l.erase c ++ [c]) = (onward it l).erase c ++ [c] := by
  have fresh : c ∉ l.erase c := fun member => (nodup.mem_erase_iff.mp member).1 rfl
  obtain ⟨before, divides⟩ := exists_divides stands
  have erased := divides.erase nodup c
  by_cases last : (if it = some c then next c l else it) = none
  · have own : it = some c := by
      by_contra other
      rw [if_neg other, inside] at last
      cases last
    rw [last] at erased
    have empty := List.head?_eq_none_iff.mp erased.stands.symm
    rw [if_pos own] at last ⊢
    rw [last, Option.none_or, onward_cons fresh, empty, List.nil_append]
  · have moved := erased.push_back last c
    have iterator : (if it = some c then (next c l).or (some c) else it) =
        if it = some c then next c l else it := by
      split
      · rename_i own
        rw [if_pos own] at last
        obtain ⟨y, following⟩ := Option.ne_none_iff_exists'.mp last
        rw [following, Option.some_or]
      · rfl
    have nodup' : (l.erase c ++ [c]).Nodup := by
      rw [List.nodup_append_comm]
      exact List.nodup_cons.mpr ⟨fresh, nodup.erase c⟩
    rw [iterator, moved.onward_eq nodup']

theorem onward_move_back {c x : α} {it : Option α} {l : List α} (nodup : l.Nodup)
    (stands : ∀ x, it = some x → x ∈ l) (ahead : x ∈ onward it l) :
    x ∈ onward (if it = some c then (next c l).or (some c) else it) (l.erase c ++ [c]) := by
  cases inside : it with
  | none =>
      rw [inside] at ahead
      cases ahead
  | some y =>
      rw [← inside, onward_move_back_of_some nodup stands inside, List.mem_append, List.mem_singleton]
      by_cases same : x = c
      · exact .inr same
      · exact .inl ((List.mem_erase_of_ne same).mpr ahead)

theorem of_mem_onward_move_back {c x : α} {it : Option α} {l : List α} (nodup : l.Nodup)
    (stands : ∀ x, it = some x → x ∈ l) (other : x ≠ c)
    (member : x ∈ onward (if it = some c then (next c l).or (some c) else it) (l.erase c ++ [c])) :
    x ∈ onward it l := by
  cases inside : it with
  | none =>
      rw [inside, if_neg (by simp)] at member
      cases member
  | some y =>
      rw [onward_move_back_of_some nodup stands inside, inside, List.mem_append, List.mem_singleton] at member
      exact List.mem_of_mem_erase (member.resolve_right other)

end Wangle.Intrusive
