import Mathlib.Init

/-!
# `StringSplit`

A string is a list of characters of any type, and the delimiters are the members of another one.
-/

namespace Wangle.Proxy

variable {α : Type} [DecidableEq α]

def isDelim (delims : List α) (c : α) : Bool := decide (c ∈ delims)

/-- `none` is `npos`. -/
def find_first_of (str delims : List α) (start : Nat) : Option Nat :=
  ((str.drop start).findIdx? (isDelim delims)).map (start + ·)

/-- The loop, which `fuel` iterations may leave unfinished. -/
def splitLoop (str delims : List α) (maxSplits : UInt32) :
    Nat → UInt32 → Nat → List (List α) → Option (List (List α))
  | 0, _, _, _ => none
  | fuel + 1, numSplits, start, ret =>
      match find_first_of str delims start with
      -- copy the rest of the string
      | none => some (ret ++ [str.drop start])
      | some pos =>
          if pos = start then splitLoop str delims maxSplits fuel (numSplits + 1) (pos + 1) (ret ++ [[]])
          else if maxSplits ≠ 0 ∧ numSplits + 1 = maxSplits then some (ret ++ [str.drop start])
          -- copy up to the delimiter
          else
            splitLoop str delims maxSplits fuel (numSplits + 1) (pos + 1) (ret ++ [(str.drop start).take (pos - start)])

def stringSplit (fuel : Nat) (str delims : List α) (maxSplits : UInt32) (ret : List (List α)) :
    Option (List (List α)) :=
  if str.isEmpty then some ret else splitLoop str delims maxSplits fuel 0 0 ret

end Wangle.Proxy
