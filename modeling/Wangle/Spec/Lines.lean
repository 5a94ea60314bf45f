import Wangle.Codec.LineBasedFrameDecoder
import Wangle.Incremental.Tokenizer

/-!
# The lines of a byte stream

What `LineBasedFrameDecoder` is for: the complete lines of a stream, each ended by the leftmost
terminator that the `TerminatorType` admits, and the unterminated tail.
-/

namespace Wangle.Spec
open Wangle.Codec Wangle.Incremental

structure Line where
  content : Bytes
  terminator : Bytes
  deriving DecidableEq

def Line.frame (stripDelimiter : Bool) (line : Line) : Bytes :=
  if stripDelimiter then line.content else line.content ++ line.terminator

def terminatorLength (t : TerminatorType) : Bytes → Option Nat
  | [] => none
  | b :: rest =>
      if b = newline then if t = .carriageNewline then none else some 1
      else if b = carriageReturn ∧ rest.head? = some newline then
        if t = .newline then none else some 2
      else none

def cutLine (t : TerminatorType) : Bytes → Option (Line × Bytes)
  | [] => none
  | b :: rest => match terminatorLength t (b :: rest) with
      | some n => some (⟨[], (b :: rest).take n⟩, (b :: rest).drop n)
      | none => (cutLine t rest).map fun cut => (⟨b :: cut.1.content, cut.1.terminator⟩, cut.2)

theorem terminatorLength_cases {t : TerminatorType} {q : Bytes} {n : Nat}
    (ends : terminatorLength t q = some n) :
    (∃ rest, q = newline :: rest ∧ n = 1 ∧ t ≠ .carriageNewline) ∨
      (∃ rest, q = carriageReturn :: newline :: rest ∧ n = 2 ∧ t ≠ .newline) := by
  cases q with
  | nil => cases ends
  | cons b rest =>
      simp only [terminatorLength] at ends
      split_ifs at ends with isNewline kind pair kind
      · exact .inl ⟨rest, by rw [isNewline], (Option.some.inj ends).symm, kind⟩
      · obtain ⟨rfl, next⟩ := pair
        obtain ⟨rest', rfl⟩ : ∃ rest', rest = newline :: rest' := by
          cases rest with
          | nil => cases next
          | cons c rest' => exact ⟨rest', by rw [Option.some.inj next]⟩
        exact .inr ⟨rest', rfl, (Option.some.inj ends).symm, kind⟩

theorem cutLine_of_some {t : TerminatorType} {q : Bytes} {n : Nat}
    (ends : terminatorLength t q = some n) : cutLine t q = some (⟨[], q.take n⟩, q.drop n) := by
  cases q with
  | nil => cases ends
  | cons b rest => simp only [cutLine, ends]

theorem cutLine_of_none {t : TerminatorType} {b : UInt8} {rest : Bytes}
    (goesOn : terminatorLength t (b :: rest) = none) :
    cutLine t (b :: rest) =
      (cutLine t rest).map fun cut => (⟨b :: cut.1.content, cut.1.terminator⟩, cut.2) := by
  simp only [cutLine, goesOn]

theorem cutLine_eq {t : TerminatorType} {q rest : Bytes} {line : Line}
    (cut : cutLine t q = some (line, rest)) :
    q = line.content ++ (line.terminator ++ rest) ∧
      ((line.terminator = [newline] ∧ t ≠ .carriageNewline) ∨
        (line.terminator = [carriageReturn, newline] ∧ t ≠ .newline)) := by
  induction q generalizing line rest with
  | nil => cases cut
  | cons b tail ih =>
      cases ends : terminatorLength t (b :: tail) with
      | some n =>
          rw [cutLine_of_some ends] at cut
          obtain ⟨rfl, rfl⟩ := Prod.mk.inj (Option.some.inj cut)
          rcases terminatorLength_cases ends with ⟨tail', equal, rfl, kind⟩ | ⟨tail', equal, rfl, kind⟩
          · rw [equal]; exact ⟨rfl, .inl ⟨rfl, kind⟩⟩
          · rw [equal]; exact ⟨rfl, .inr ⟨rfl, kind⟩⟩
      | none =>
          rw [cutLine_of_none ends] at cut
          obtain ⟨⟨line', rest'⟩, cut', equal⟩ := Option.map_eq_some_iff.mp cut
          cases equal
          obtain ⟨front, kind⟩ := ih cut'
          exact ⟨congrArg (b :: ·) front, kind⟩

theorem cutLine_shrinks {t : TerminatorType} {q rest : Bytes} {line : Line}
    (cut : cutLine t q = some (line, rest)) : rest.length < q.length := by
  obtain ⟨rfl, ⟨ends, -⟩ | ⟨ends, -⟩⟩ := cutLine_eq cut
  · simp [ends]; omega
  · simp [ends]; omega

theorem cutLine_behind {t : TerminatorType} {q rest : Bytes} {line : Line}
    (cut : cutLine t q = some (line, rest)) (more : Bytes) :
    cutLine t (line.content ++ (line.terminator ++ more)) = some (line, more) := by
  induction q generalizing line rest with
  | nil => cases cut
  | cons b tail ih =>
      cases ends : terminatorLength t (b :: tail) with
      | some n =>
          rw [cutLine_of_some ends] at cut
          obtain ⟨rfl, rfl⟩ := Prod.mk.inj (Option.some.inj cut)
          rcases terminatorLength_cases ends with ⟨tail', equal, rfl, kind⟩ | ⟨tail', equal, rfl, kind⟩
          · rw [equal]
            exact cutLine_of_some (n := 1) (by simp [terminatorLength, kind])
          · rw [equal]
            exact cutLine_of_some (n := 2) (by simp [terminatorLength, kind, newline, carriageReturn])
      | none =>
          rw [cutLine_of_none ends] at cut
          obtain ⟨⟨line', rest'⟩, cut', equal⟩ := Option.map_eq_some_iff.mp cut
          cases equal
          -- a line is cut further on, so the byte that follows `b` is in it
          have same : terminatorLength t (b :: (line'.content ++ (line'.terminator ++ more))) =
              terminatorLength t (b :: tail) := by
            obtain ⟨rfl, ⟨shape, -⟩ | ⟨shape, -⟩⟩ := cutLine_eq cut' <;>
              cases line'.content <;> simp [terminatorLength, shape]
          rw [List.cons_append, cutLine_of_none (same.trans ends), ih cut']
          rfl

theorem cutLine_append {t : TerminatorType} {q rest : Bytes} {line : Line} (more : Bytes)
    (cut : cutLine t q = some (line, rest)) : cutLine t (q ++ more) = some (line, rest ++ more) := by
  have again := cutLine_behind cut (rest ++ more)
  obtain ⟨rfl, -⟩ := cutLine_eq cut
  rwa [List.append_assoc, List.append_assoc]

theorem cutLine_take {t : TerminatorType} {q rest : Bytes} {line : Line} {n : Nat}
    (cut : cutLine t q = some (line, rest))
    (inside : line.content.length + line.terminator.length ≤ n) :
    cutLine t (q.take n) = some (line, rest.take (n - (line.content.length + line.terminator.length))) := by
  have front := cutLine_behind cut (rest.take (n - (line.content.length + line.terminator.length)))
  obtain ⟨rfl, -⟩ := cutLine_eq cut
  rw [← List.append_assoc] at front
  rw [← front, ← List.append_assoc, List.take_append, List.take_of_length_le (by simpa using inside),
    List.length_append]

/-- The complete lines of a stream and its unterminated tail are `(lines t).split stream`. -/
def lines (t : TerminatorType) : Tokenizer UInt8 Line where
  next := cutLine t
  shrinks _ _ _ cut := cutLine_shrinks cut
  stable _ _ _ more cut := cutLine_append more cut

end Wangle.Spec
