import Wangle.Delimited.Cuts
import Wangle.Proxy.Utility

/-!
# What `StringSplit` does to a string

The limit is tested only where a piece is not empty. If the piece at which it would be reached is empty, the string is
cut there, and at every later delimiter.
-/

namespace Wangle.Proof.Proxy
open Wangle.Proxy Wangle.Delimited

variable {α : Type} [DecidableEq α] {str delims : List α} {maxSplits numSplits : UInt32} {start fuel : Nat}
  {ret : List (List α)}

theorem find_first_of_none (free : ∀ x ∈ str.drop start, isDelim delims x = false) :
    find_first_of str delims start = none := by
  rw [find_first_of, List.findIdx?_eq_none_iff.mpr free]
  rfl

theorem find_first_of_some {piece rest : List α} {c : α} (suffix : str.drop start = piece ++ c :: rest)
    (free : ∀ x ∈ piece, isDelim delims x = false) (delimiter : isDelim delims c = true) :
    find_first_of str delims start = some (start + piece.length) := by
  rw [find_first_of, suffix, List.findIdx?_append, List.findIdx?_eq_none_iff.mpr free, List.findIdx?_cons, delimiter]
  simp

omit [DecidableEq α] in
theorem drop_cut {piece rest : List α} {c : α} (suffix : str.drop start = piece ++ c :: rest) :
    str.drop (start + piece.length + 1) = rest := by
  rw [Nat.add_assoc, ← List.drop_drop, suffix, List.drop_append]
  simp

theorem splitLoop_cut {piece rest : List α} {c : α} (suffix : str.drop start = piece ++ c :: rest)
    (free : ∀ x ∈ piece, isDelim delims x = false) (delimiter : isDelim delims c = true)
    (goesOn : piece = [] ∨ ¬ (maxSplits ≠ 0 ∧ numSplits + 1 = maxSplits)) :
    splitLoop str delims maxSplits (fuel + 1) numSplits start ret =
      splitLoop str delims maxSplits fuel (numSplits + 1) (start + piece.length + 1) (ret ++ [piece]) := by
  rw [splitLoop, find_first_of_some suffix free delimiter]
  dsimp only
  split
  · rename_i empty
    have none : piece = [] := List.length_eq_zero_iff.mp (by omega)
    rw [none]
  · rename_i some
    rw [if_neg (goesOn.resolve_left fun empty => some (by simp [empty])), suffix]
    simp

theorem splitLoop_last
    (ends : (∀ x ∈ str.drop start, isDelim delims x = false) ∨
      ∃ piece c rest, str.drop start = piece ++ c :: rest ∧ (∀ x ∈ piece, isDelim delims x = false) ∧
        isDelim delims c = true ∧ piece ≠ [] ∧ maxSplits ≠ 0 ∧ numSplits + 1 = maxSplits) :
    splitLoop str delims maxSplits (fuel + 1) numSplits start ret = some (ret ++ [str.drop start]) := by
  rw [splitLoop]
  obtain free | ⟨piece, c, rest, suffix, free, delimiter, some, limit⟩ := ends
  · rw [find_first_of_none free]
  · rw [find_first_of_some suffix free delimiter]
    dsimp only
    rw [if_neg fun equal => some (List.length_eq_zero_iff.mp (by omega)), if_pos limit]

def LimitMet (delims rest : List α) (left : Nat) : Prop :=
  1 + rest.countP (isDelim delims) ≤ left ∨ (rest.splitOnP (isDelim delims))[left - 1]? ≠ some []

instance (delims rest : List α) (left : Nat) : Decidable (LimitMet delims rest left) :=
  inferInstanceAs (Decidable (_ ∨ _))

structure Counted (delims rest : List α) (left : Nat) (pieces : List (List α)) : Prop where
  met : LimitMet delims rest left → pieces.length = min left (1 + rest.countP (isDelim delims))
  missed : ¬ LimitMet delims rest left → left < pieces.length

structure Splits (delims : List α) (maxSplits numSplits : UInt32) (rest : List α) (pieces : List (List α)) : Prop where
  cuts : Cuts (isDelim delims) rest pieces
  unlimited : maxSplits = 0 → pieces = rest.splitOnP (isDelim delims)
  limited : numSplits < maxSplits → Counted delims rest (maxSplits.toNat - numSplits.toNat) pieces

theorem splits_free {rest : List α} (free : ∀ x ∈ rest, isDelim delims x = false) :
    Splits delims maxSplits numSplits rest [rest] where
  cuts := .last rest
  unlimited _ := (List.splitOnP_eq_singleton free).symm
  limited below := by
    have some : 0 < maxSplits.toNat - numSplits.toNat := Nat.sub_pos_of_lt below
    have one : 1 + rest.countP (isDelim delims) = 1 := by rw [countP_of_free free]
    refine ⟨fun _ => ?_, fun missed => absurd (.inl (Nat.le_trans (Nat.le_of_eq one) some)) missed⟩
    rw [one, List.length_singleton]
    omega

theorem toNat_add_one (below : numSplits < maxSplits) : (numSplits + 1).toNat = numSplits.toNat + 1 := by
  have bound := maxSplits.toNat_lt
  rw [UInt32.lt_iff_toNat_lt] at below
  rw [UInt32.toNat_add, UInt32.toNat_one]
  omega

theorem splits_limit {piece rest : List α} {c : α} (free : ∀ x ∈ piece, isDelim delims x = false)
    (delimiter : isDelim delims c = true) (someThere : piece ≠ []) (limit : maxSplits ≠ 0 ∧ numSplits + 1 = maxSplits) :
    Splits delims maxSplits numSplits (piece ++ c :: rest) [piece ++ c :: rest] where
  cuts := .last _
  unlimited none := absurd none limit.1
  limited below := by
    have one : maxSplits.toNat - numSplits.toNat = 1 := by
      rw [← limit.2, toNat_add_one below]
      omega
    have met : LimitMet delims (piece ++ c :: rest) 1 := by
      right
      rw [List.splitOnP_append_cons_of_forall_mem free c delimiter]
      simpa using someThere
    rw [one]
    refine ⟨fun _ => ?_, fun missed => absurd met missed⟩
    rw [List.length_singleton]
    omega

theorem limitMet_cut {piece rest : List α} {c : α} {left : Nat} (free : ∀ x ∈ piece, isDelim delims x = false)
    (delimiter : isDelim delims c = true) (some : 0 < left) :
    LimitMet delims (piece ++ c :: rest) (left + 1) ↔ LimitMet delims rest left := by
  obtain ⟨left, rfl⟩ := Nat.exists_eq_add_of_lt some
  unfold LimitMet
  rw [List.splitOnP_append_cons_of_forall_mem free c delimiter, countP_cut free delimiter]
  simp only [Nat.zero_add, Nat.add_sub_cancel, List.getElem?_cons_succ]
  refine or_congr_left ?_
  omega

theorem counted_cut {piece rest : List α} {c : α} {pieces : List (List α)} {left : Nat}
    (free : ∀ x ∈ piece, isDelim delims x = false) (delimiter : isDelim delims c = true) (some : 0 < left)
    (later : Counted delims rest left pieces) : Counted delims (piece ++ c :: rest) (left + 1) (piece :: pieces) where
  met met := by
    have length := later.met ((limitMet_cut free delimiter some).mp met)
    rw [List.length_cons, countP_cut free delimiter]
    omega
  missed missed := by
    have length := later.missed (mt (limitMet_cut free delimiter some).mpr missed)
    rw [List.length_cons]
    omega

theorem counted_missed {rest : List α} {c : α} {pieces : List (List α)} (delimiter : isDelim delims c = true)
    (later : pieces ≠ []) : Counted delims (c :: rest) 1 ([] :: pieces) where
  met met := by
    obtain short | notEmpty := met
    · rw [List.countP_cons_of_pos delimiter] at short
      omega
    · refine absurd ?_ notEmpty
      rw [List.splitOnP_cons_eq_if_modifyHead, if_pos delimiter]
      rfl
  missed _ := by
    have some := List.length_pos_iff.mpr later
    rw [List.length_cons]
    omega

theorem splits_cut {piece rest : List α} {c : α} {pieces : List (List α)}
    (free : ∀ x ∈ piece, isDelim delims x = false) (delimiter : isDelim delims c = true)
    (goesOn : piece = [] ∨ ¬ (maxSplits ≠ 0 ∧ numSplits + 1 = maxSplits))
    (later : Splits delims maxSplits (numSplits + 1) rest pieces) :
    Splits delims maxSplits numSplits (piece ++ c :: rest) (piece :: pieces) where
  cuts := .cut free delimiter later.cuts
  unlimited none := by rw [List.splitOnP_append_cons_of_forall_mem free c delimiter, ← later.unlimited none]
  limited below := by
    have next := toNat_add_one below
    by_cases last : numSplits + 1 = maxSplits
    · have positive : maxSplits ≠ 0 := by
        rintro rfl
        exact UInt32.not_lt_zero below
      have one : maxSplits.toNat - numSplits.toNat = 1 := by
        rw [← last, next]
        omega
      rw [one, goesOn.resolve_right fun stops => stops ⟨positive, last⟩]
      exact counted_missed delimiter later.cuts.ne_nil
    · have further : numSplits + 1 < maxSplits := by
        rw [UInt32.lt_iff_toNat_lt] at below ⊢
        rw [← UInt32.toNat_inj] at last
        omega
      have left : maxSplits.toNat - numSplits.toNat = (maxSplits.toNat - (numSplits + 1).toNat) + 1 := by
        rw [UInt32.lt_iff_toNat_lt] at further
        omega
      rw [left]
      exact counted_cut free delimiter (Nat.sub_pos_of_lt further) (later.limited further)

theorem splitLoop_splits (str delims : List α) (maxSplits numSplits : UInt32) (start : Nat) (ret : List (List α)) :
    ∃ pieces, Splits delims maxSplits numSplits (str.drop start) pieces ∧
      ∀ fuel, (str.drop start).length < fuel →
        splitLoop str delims maxSplits fuel numSplits start ret = some (ret ++ pieces) := by
  generalize suffix : str.drop start = rest
  induction rest using delimited_induction (p := isDelim delims) generalizing numSplits start ret with
  | free rest free =>
      refine ⟨[rest], splits_free free, fun fuel enough => ?_⟩
      obtain ⟨fuel, rfl⟩ := Nat.exists_eq_add_of_lt enough
      rw [splitLoop_last (.inl (suffix ▸ free)), suffix]
  | cut piece c rest free delimiter ih =>
      by_cases goesOn : piece = [] ∨ ¬ (maxSplits ≠ 0 ∧ numSplits + 1 = maxSplits)
      · obtain ⟨pieces, splits, done⟩ := ih (numSplits + 1) (start + piece.length + 1) (ret ++ [piece])
          (drop_cut suffix)
        refine ⟨piece :: pieces, splits_cut free delimiter goesOn splits, fun fuel enough => ?_⟩
        obtain ⟨fuel, rfl⟩ := Nat.exists_eq_add_of_lt enough
        rw [splitLoop_cut suffix free delimiter goesOn, done, List.append_assoc, List.singleton_append]
        simp only [List.length_append, List.length_cons]
        omega
      · rw [not_or, Classical.not_not] at goesOn
        refine ⟨[piece ++ c :: rest], splits_limit free delimiter goesOn.1 goesOn.2, fun fuel enough => ?_⟩
        obtain ⟨fuel, rfl⟩ := Nat.exists_eq_add_of_lt enough
        rw [splitLoop_last (.inr ⟨piece, c, rest, suffix, free, delimiter, goesOn⟩), suffix]

theorem stringSplit_splits (delims : List α) (maxSplits : UInt32) (ret : List (List α)) (someThere : str ≠ []) :
    ∃ pieces, Splits delims maxSplits 0 str pieces ∧
      ∀ fuel, str.length < fuel → stringSplit fuel str delims maxSplits ret = some (ret ++ pieces) := by
  obtain ⟨pieces, splits, done⟩ := splitLoop_splits str delims maxSplits 0 0 ret
  refine ⟨pieces, splits, fun fuel enough => ?_⟩
  rw [stringSplit, List.isEmpty_eq_false_iff.mpr someThere]
  exact done fuel enough

/-- The pieces, interleaved with the delimiters at which they were cut, are the string, and only the last one can hold
a delimiter. -/
structure Lossless (delims str : List α) (pieces : List (List α)) : Prop where
  whole : ∃ between, (∀ c ∈ between, c ∈ delims) ∧ pieces.length = between.length + 1 ∧ interleave pieces between = str
  free : ∀ piece ∈ pieces.dropLast, ∀ c ∈ piece, c ∉ delims

theorem Splits.lossless {pieces : List (List α)} (splits : Splits delims maxSplits numSplits str pieces) :
    Lossless delims str pieces where
  whole := by simpa [isDelim] using splits.cuts.interleaved
  free := by simpa [isDelim] using splits.cuts.free

/-- It takes at most one iteration more than there are characters. -/
theorem stringSplit_lossless (str delims : List α) (maxSplits : UInt32) (ret : List (List α)) (someThere : str ≠ []) :
    ∃ pieces, (∀ fuel, str.length < fuel → stringSplit fuel str delims maxSplits ret = some (ret ++ pieces)) ∧
      Lossless delims str pieces ∧
      (maxSplits = 0 → (∀ piece ∈ pieces, ∀ c ∈ piece, c ∉ delims) ∧
        pieces.length = 1 + str.countP (isDelim delims)) := by
  obtain ⟨pieces, splits, done⟩ := stringSplit_splits delims maxSplits ret someThere
  refine ⟨pieces, done, splits.lossless, fun none => ?_⟩
  rw [splits.unlimited none]
  exact ⟨by simpa [isDelim] using free_of_mem_splitOnP (p := isDelim delims) (l := str), length_splitOnP⟩

theorem stringSplit_lossless_ends : ([0, 1, 0, 0] : List Nat) ≠ [] ∧
    stringSplit 5 [0, 1, 0, 0] [0, 9] 0 [] = some [[], [1], [], []] ∧ Lossless [0, 9] [0, 1, 0, 0] [[], [1], [], []] := by
  obtain ⟨pieces, done, lossless, -⟩ := stringSplit_lossless ([0, 1, 0, 0] : List Nat) [0, 9] 0 [] (by decide)
  have split : some pieces = some [[], [1], [], []] := (done 5 (by decide)).symm.trans (by decide)
  cases split
  exact ⟨by decide, by decide, lossless⟩

structure RespectsLimit (delims str : List α) (maxSplits : Nat) (pieces : List (List α)) : Prop where
  atMost : pieces.length ≤ maxSplits
  exactly : str ≠ [] → pieces.length = min maxSplits (1 + str.countP (isDelim delims)) ∧ Lossless delims str pieces

theorem stringSplit_respectsLimit_iff (str delims : List α) (maxSplits : UInt32) (ret : List (List α))
    (limited : 0 < maxSplits) :
    ∃ pieces, (∀ fuel, str.length < fuel → stringSplit fuel str delims maxSplits ret = some (ret ++ pieces)) ∧
      (RespectsLimit delims str maxSplits.toNat pieces ↔ LimitMet delims str maxSplits.toNat) := by
  by_cases empty : str = []
  · subst empty
    refine ⟨[], fun fuel _ => by simp [stringSplit], ?_⟩
    have positive : 0 < maxSplits.toNat := limited
    exact iff_of_true ⟨Nat.zero_le _, fun someThere => absurd rfl someThere⟩ (.inl positive)
  · obtain ⟨pieces, splits, done⟩ := stringSplit_splits delims maxSplits ret empty
    have counted := splits.limited limited
    rw [UInt32.toNat_zero, Nat.sub_zero] at counted
    refine ⟨pieces, done, fun respects => ?_, fun met => ?_⟩
    · refine Classical.byContradiction fun missed => ?_
      exact Nat.not_le_of_lt (counted.missed missed) respects.atMost
    · have length := counted.met met
      exact ⟨length ▸ Nat.min_le_left _ _, fun _ => ⟨length, splits.lossless⟩⟩

theorem stringSplit_respectsLimit_two : (0 : UInt32) < 2 ∧
    stringSplit 6 [1, 0, 2, 0, 3] [0] 2 [] = some [[1], [2, 0, 3]] ∧
    RespectsLimit [0] [1, 0, 2, 0, 3] 2 [[1], [2, 0, 3]] := by
  obtain ⟨pieces, done, respects⟩ := stringSplit_respectsLimit_iff [1, 0, 2, 0, 3] [0] 2 [] (by decide)
  have split : some pieces = some [[1], [2, 0, 3]] := (done 6 (by decide)).symm.trans (by decide)
  cases split
  exact ⟨by decide, by decide, respects.mpr (by decide)⟩

/-- The string starts with a delimiter, and its only piece was to be the whole of it. -/
theorem stringSplit_exceeds_limit :
    stringSplit 3 [0, 1] [0] 1 [] = some [[], [1]] ∧ ¬ RespectsLimit [0] [0, 1] 1 [[], [1]] ∧
    -- the limit is passed and not tested again
    stringSplit 9 [1, 0, 0, 2, 0, 3, 0, 4] [0] 2 [] = some [[1], [], [2], [3], [4]] ∧
    ¬ RespectsLimit [0] [1, 0, 0, 2, 0, 3, 0, 4] 2 [[1], [], [2], [3], [4]] := by
  refine ⟨by decide, fun respects => ?_, by decide, fun respects => ?_⟩
  · exact absurd respects.atMost (by decide)
  · exact absurd respects.atMost (by decide)

end Wangle.Proof.Proxy
