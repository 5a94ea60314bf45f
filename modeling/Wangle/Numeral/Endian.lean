import Mathlib.Data.Nat.Digits.Lemmas

/-!
# Numbers in a fixed number of bytes
-/

namespace Wangle.Numeral

def ofLittleEndian (bytes : List UInt8) : Nat := Nat.ofDigits 256 (bytes.map UInt8.toNat)

def littleEndian : Nat → Nat → List UInt8
  | 0, _ => []
  | width+1, n => UInt8.ofNat n :: littleEndian width (n / 256)

def ofBytes (networkByteOrder : Bool) (bytes : List UInt8) : Nat :=
  if networkByteOrder then ofLittleEndian bytes.reverse else ofLittleEndian bytes

def toBytes (networkByteOrder : Bool) (width n : Nat) : List UInt8 :=
  if networkByteOrder then (littleEndian width n).reverse else littleEndian width n

theorem littleEndian_length (width n : Nat) : (littleEndian width n).length = width := by
  induction width generalizing n with
  | zero => rfl
  | succ width ih => rw [littleEndian, List.length_cons, ih]

theorem toBytes_length (networkByteOrder : Bool) (width n : Nat) :
    (toBytes networkByteOrder width n).length = width := by
  cases networkByteOrder <;> simp [toBytes, littleEndian_length]

theorem ofLittleEndian_lt (bytes : List UInt8) : ofLittleEndian bytes < 256 ^ bytes.length := by
  have bound := Nat.ofDigits_lt_base_pow_length (b := 256) (l := bytes.map UInt8.toNat) (by decide) (by
    simp only [List.mem_map, forall_exists_index, and_imp, forall_apply_eq_imp_iff₂]
    exact fun byte _ => byte.toNat_lt)
  rwa [List.length_map] at bound

theorem ofBytes_lt (networkByteOrder : Bool) (bytes : List UInt8) :
    ofBytes networkByteOrder bytes < 256 ^ bytes.length := by
  cases networkByteOrder with
  | false => exact ofLittleEndian_lt bytes
  | true => simpa [ofBytes] using ofLittleEndian_lt bytes.reverse

theorem ofLittleEndian_littleEndian (width n : Nat) :
    ofLittleEndian (littleEndian width n) = n % 256 ^ width := by
  induction width generalizing n with
  | zero => simp [littleEndian, ofLittleEndian, Nat.mod_one]
  | succ width ih =>
      have digits := ih (n / 256)
      simp only [ofLittleEndian] at digits
      simp only [littleEndian, ofLittleEndian, List.map_cons, Nat.ofDigits_cons, digits]
      rw [Nat.pow_succ, Nat.mul_comm (256 ^ width), Nat.mod_mul]
      simp

theorem ofBytes_toBytes (networkByteOrder : Bool) (width n : Nat) :
    ofBytes networkByteOrder (toBytes networkByteOrder width n) = n % 256 ^ width := by
  cases networkByteOrder <;> simp [ofBytes, toBytes, ofLittleEndian_littleEndian]

end Wangle.Numeral
