import Mathlib.Logic.Function.Basic
import Mathlib.Data.List.Nodup

/-!
# Chains of links
-/

namespace Wangle.Linked

variable {α : Type}

/-- What is visited from a link on, if the chain ends within the fuel. -/
def follow (next : α → Option α) : Nat → Option α → Option (List α)
  | _, none => some []
  | 0, some _ => none
  | fuel + 1, some a => (follow next fuel (next a)).map (a :: ·)

/-- Links each element to the one after it and the last one to none, and stops at an element that does not
fit the one after it. -/
def relink [DecidableEq α] (fits : α → α → Bool) : List α → (α → Option α) → (α → Option α) × Option α
  | [], next => (next, none)
  | [a], next => (Function.update next a none, none)
  | a :: b :: rest, next =>
      if fits a b then relink fits (b :: rest) (Function.update next a (some b)) else (next, some a)

def Chained (next : α → Option α) : List α → Prop
  | [] => True
  | a :: rest => next a = rest.head? ∧ Chained next rest

theorem follow_chained {next : α → Option α} {l : List α} (chained : Chained next l) {fuel : Nat}
    (enough : l.length ≤ fuel) : follow next fuel l.head? = some l := by
  induction l generalizing fuel with
  | nil => cases fuel <;> rfl
  | cons a rest ih =>
      cases fuel with
      | zero => simp at enough
      | succ fuel =>
          rw [List.head?_cons, follow, chained.1, ih chained.2 (Nat.le_of_succ_le_succ enough)]
          rfl

variable [DecidableEq α] {fits : α → α → Bool}

theorem relink_of_not_mem {l : List α} {a : α} (absent : a ∉ l) (next : α → Option α) :
    (relink fits l next).1 a = next a := by
  induction l generalizing next with
  | nil => rfl
  | cons b rest ih =>
      rw [List.mem_cons, not_or] at absent
      cases rest with
      | nil => simp [relink, Function.update_of_ne absent.1]
      | cons c rest =>
          rw [relink]
          split
          · rw [ih absent.2, Function.update_of_ne absent.1]
          · rfl

theorem relink_chained {l : List α} (distinct : l.Nodup) {next : α → Option α}
    (fit : (relink fits l next).2 = none) : Chained (relink fits l next).1 l := by
  induction l generalizing next with
  | nil => trivial
  | cons a rest ih =>
      rw [List.nodup_cons] at distinct
      cases rest with
      | nil => exact ⟨Function.update_self .., trivial⟩
      | cons b rest =>
          rw [relink] at fit ⊢
          split at fit
          · rename_i fitting
            rw [if_pos fitting]
            exact ⟨by rw [relink_of_not_mem distinct.1, Function.update_self]; rfl, ih distinct.2 fit⟩
          · cases fit

end Wangle.Linked
