import Mathlib.Data.Char
import Mathlib.Tactic.Linarith

/-!
# Names of SSL contexts

Names are compared without case, and hashed in lower case.
-/

namespace Wangle.Ssl

inductive CertCrypto
  | bestAvailable
  | sha1Signature
  deriving DecidableEq, Repr, Hashable

abbrev DNString := List Char

namespace DNString

def lowercase (dn : DNString) : DNString := dn.map Char.toLower

/-- `basic_string::compare` with the traits of the names. -/
def compare : DNString → DNString → Int
  | [], [] => 0
  | [], _ :: _ => -1
  | _ :: _, [] => 1
  | c1 :: s1, c2 :: s2 =>
      if c1.toLower < c2.toLower then -1
      else if c1.toLower > c2.toLower then 1
      else compare s1 s2

theorem compare_eq_zero {a b : DNString} : compare a b = 0 ↔ a.lowercase = b.lowercase := by
  induction a generalizing b with
  | nil => cases b <;> simp [compare, lowercase]
  | cons c1 s1 ih =>
      cases b with
      | nil => simp [compare, lowercase]
      | cons c2 s2 =>
          simp only [compare, lowercase, List.map_cons, List.cons.injEq]
          rcases lt_trichotomy c1.toLower c2.toLower with less | same | more
          · simp [less, less.ne]
          · simp only [same, lt_irrefl, if_false, true_and]
            exact ih
          · simp [more, more.ne', not_lt_of_gt more]

end DNString

structure SSLContextKey where
  dnString : DNString
  certCrypto : CertCrypto := .bestAvailable

instance : BEq SSLContextKey where
  beq lhs rhs := lhs.dnString.compare rhs.dnString == 0 && lhs.certCrypto == rhs.certCrypto

instance : Hashable SSLContextKey where
  hash key := mixHash (hash (String.ofList key.dnString.lowercase)) (hash key.certCrypto)

namespace SSLContextKey

theorem beq_iff {lhs rhs : SSLContextKey} :
    (lhs == rhs) = true ↔ lhs.dnString.lowercase = rhs.dnString.lowercase ∧ lhs.certCrypto = rhs.certCrypto := by
  show (lhs.dnString.compare rhs.dnString == 0 && lhs.certCrypto == rhs.certCrypto) = true ↔ _
  rw [Bool.and_eq_true, beq_iff_eq, beq_iff_eq, DNString.compare_eq_zero]

instance : EquivBEq SSLContextKey where
  rfl := beq_iff.mpr ⟨rfl, rfl⟩
  symm same := by
    obtain ⟨names, cryptos⟩ := beq_iff.mp same
    exact beq_iff.mpr ⟨names.symm, cryptos.symm⟩
  trans first second := by
    obtain ⟨names, cryptos⟩ := beq_iff.mp first
    obtain ⟨names', cryptos'⟩ := beq_iff.mp second
    exact beq_iff.mpr ⟨names.trans names', cryptos.trans cryptos'⟩

instance : LawfulHashable SSLContextKey where
  hash_eq lhs rhs same := by
    obtain ⟨names, cryptos⟩ := beq_iff.mp same
    show mixHash (hash (String.ofList lhs.dnString.lowercase)) _ = mixHash (hash (String.ofList rhs.dnString.lowercase)) _
    rw [names, cryptos]

end SSLContextKey
end Wangle.Ssl
