import Mathlib.Data.List.Basic

namespace Wangle.Incremental

/-- A rule that takes one token off the front of a buffer, or waits for more input. What it has
taken is not changed by input that arrives later. -/
structure Tokenizer (α τ : Type) where
  next : List α → Option (τ × List α)
  shrinks : ∀ buffer token rest, next buffer = some (token, rest) → rest.length < buffer.length
  stable : ∀ buffer token rest more, next buffer = some (token, rest) →
    next (buffer ++ more) = some (token, rest ++ more)

namespace Tokenizer
variable {α τ : Type} (rule : Tokenizer α τ)

def splitWithin : Nat → List α → List τ × List α
  | 0, buffer => ([], buffer)
  | n+1, buffer => match rule.next buffer with
      | none => ([], buffer)
      | some (token, rest) => (token :: (splitWithin n rest).1, (splitWithin n rest).2)

def split (buffer : List α) : List τ × List α := rule.splitWithin buffer.length buffer

theorem next_nil : rule.next [] = none := by
  cases taken : rule.next [] with
  | none => rfl
  | some pair => exact absurd (rule.shrinks [] pair.1 pair.2 taken) (Nat.not_lt_zero _)

theorem splitWithin_of_none (n : Nat) {buffer : List α} (waits : rule.next buffer = none) :
    rule.splitWithin n buffer = ([], buffer) := by
  cases n <;> simp [splitWithin, waits]

theorem splitWithin_stable (n m : Nat) (buffer : List α)
    (enough : buffer.length ≤ n) (more : buffer.length ≤ m) :
    rule.splitWithin n buffer = rule.splitWithin m buffer := by
  induction n generalizing m buffer with
  | zero =>
      have empty : buffer = [] := List.eq_nil_of_length_eq_zero (Nat.le_zero.mp enough)
      subst empty
      rw [rule.splitWithin_of_none 0 rule.next_nil, rule.splitWithin_of_none m rule.next_nil]
  | succ n ih =>
      cases taken : rule.next buffer with
      | none => rw [rule.splitWithin_of_none _ taken, rule.splitWithin_of_none _ taken]
      | some pair =>
          obtain ⟨token, rest⟩ := pair
          have shorter := rule.shrinks buffer token rest taken
          cases m with
          | zero => omega
          | succ m => simp only [splitWithin, taken, ih m rest (by omega) (by omega)]

theorem split_of_none {buffer : List α} (waits : rule.next buffer = none) :
    rule.split buffer = ([], buffer) :=
  rule.splitWithin_of_none _ waits

theorem split_of_some {buffer : List α} {token : τ} {rest : List α}
    (taken : rule.next buffer = some (token, rest)) :
    rule.split buffer = (token :: (rule.split rest).1, (rule.split rest).2) := by
  have shorter := rule.shrinks buffer token rest taken
  obtain ⟨n, length⟩ : ∃ n, buffer.length = n + 1 := ⟨buffer.length - 1, by omega⟩
  simp only [split, length, splitWithin, taken]
  rw [rule.splitWithin_stable n rest.length rest (by omega) (Nat.le_refl _)]

theorem split_nil : rule.split [] = ([], []) := rule.split_of_none rule.next_nil

theorem split_induction {motive : List α → Prop}
    (waits : ∀ buffer, rule.next buffer = none → motive buffer)
    (takes : ∀ buffer token rest, rule.next buffer = some (token, rest) → motive rest → motive buffer)
    (buffer : List α) : motive buffer := by
  induction size : buffer.length using Nat.strongRecOn generalizing buffer with
  | _ n ih =>
      cases taken : rule.next buffer with
      | none => exact waits buffer taken
      | some pair =>
          have shorter := rule.shrinks buffer pair.1 pair.2 taken
          exact takes buffer pair.1 pair.2 taken (ih pair.2.length (size ▸ shorter) pair.2 rfl)

theorem next_split_tail (buffer : List α) : rule.next (rule.split buffer).2 = none := by
  induction buffer using rule.split_induction with
  | waits buffer waits => rw [rule.split_of_none waits]; exact waits
  | takes buffer token rest taken ih => rw [rule.split_of_some taken]; exact ih

theorem split_tail_of_no_token {buffer : List α} (quiet : (rule.split buffer).1 = []) :
    rule.split buffer = ([], buffer) := by
  cases taken : rule.next buffer with
  | none => exact rule.split_of_none taken
  | some pair =>
      obtain ⟨token, rest⟩ := pair
      rw [rule.split_of_some taken] at quiet
      cases quiet

/-- Tokens are independent of where the input was cut: the waiting part of the first piece is
taken up again in front of the second. -/
theorem split_append (buffer more : List α) :
    rule.split (buffer ++ more) =
      ((rule.split buffer).1 ++ (rule.split ((rule.split buffer).2 ++ more)).1,
        (rule.split ((rule.split buffer).2 ++ more)).2) := by
  induction buffer using rule.split_induction with
  | waits buffer waits => simp [rule.split_of_none waits]
  | takes buffer token rest taken ih =>
      rw [rule.split_of_some taken, rule.split_of_some (rule.stable buffer token rest more taken), ih]
      simp

def map {υ : Type} (f : τ → υ) : Tokenizer α υ where
  next buffer := (rule.next buffer).map fun taken => (f taken.1, taken.2)
  shrinks buffer token rest taken := by
    obtain ⟨pair, next, equal⟩ := Option.map_eq_some_iff.mp taken
    cases equal
    exact rule.shrinks buffer pair.1 pair.2 next
  stable buffer token rest more taken := by
    obtain ⟨pair, next, equal⟩ := Option.map_eq_some_iff.mp taken
    cases equal
    rw [rule.stable buffer pair.1 pair.2 more next]
    rfl

theorem map_split {υ : Type} (f : τ → υ) (buffer : List α) :
    (rule.map f).split buffer = ((rule.split buffer).1.map f, (rule.split buffer).2) := by
  induction buffer using rule.split_induction with
  | waits buffer waits =>
      have waits' : (rule.map f).next buffer = none := by simp [map, waits]
      rw [(rule.map f).split_of_none waits', rule.split_of_none waits]
      rfl
  | takes buffer token rest taken ih =>
      have taken' : (rule.map f).next buffer = some (f token, rest) := by simp [map, taken]
      rw [(rule.map f).split_of_some taken', rule.split_of_some taken, ih]
      rfl

end Tokenizer
end Wangle.Incremental
