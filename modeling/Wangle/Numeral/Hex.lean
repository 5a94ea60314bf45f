import Mathlib.Data.UInt

/-!
# Bytes as hexadecimal text
-/

namespace Wangle.Numeral

def hexValue (c : Char) : Option Nat :=
  if '0' ≤ c ∧ c ≤ '9' then some (c.toNat - '0'.toNat)
  else if 'a' ≤ c ∧ c ≤ 'f' then some (c.toNat - 'a'.toNat + 10)
  else if 'A' ≤ c ∧ c ≤ 'F' then some (c.toNat - 'A'.toNat + 10)
  else none

def hexDigit (n : Nat) : Char := "0123456789abcdef".toList.getD n '0'

def hexDigits (bytes : List UInt8) : List Char :=
  bytes.flatMap fun b => [hexDigit (b.toNat / 16), hexDigit (b.toNat % 16)]

def ofHexDigits : List Char → Option (List UInt8)
  | [] => some []
  | [_] => none
  | high :: low :: rest =>
      match hexValue high, hexValue low, ofHexDigits rest with
      | some h, some l, some bytes => some (UInt8.ofNat (16 * h + l) :: bytes)
      | _, _, _ => none

def hexlify (bytes : List UInt8) : String := String.ofList (hexDigits bytes)

def unhexlify (text : String) : Option (List UInt8) := ofHexDigits text.toList

theorem hexValue_hexDigit : ∀ n < 16, hexValue (hexDigit n) = some n := by
  decide

theorem ofHexDigits_hexDigits (bytes : List UInt8) : ofHexDigits (hexDigits bytes) = some bytes := by
  induction bytes with
  | nil => rfl
  | cons b bytes ih =>
      have size := b.toNat_lt
      have high := hexValue_hexDigit (b.toNat / 16) (by omega)
      have low := hexValue_hexDigit (b.toNat % 16) (by omega)
      have whole : 16 * (b.toNat / 16) + b.toNat % 16 = b.toNat := Nat.div_add_mod ..
      show ofHexDigits (hexDigit (b.toNat / 16) :: hexDigit (b.toNat % 16) :: hexDigits bytes) = _
      simp only [ofHexDigits, high, low, ih, whole, UInt8.ofNat_toNat]

theorem unhexlify_hexlify (bytes : List UInt8) : unhexlify (hexlify bytes) = some bytes := by
  rw [unhexlify, hexlify, String.toList_ofList, ofHexDigits_hexDigits]

end Wangle.Numeral
