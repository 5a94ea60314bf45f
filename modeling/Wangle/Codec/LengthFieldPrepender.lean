import Wangle.Codec.LengthFieldBasedFrameDecoder

namespace Wangle.Codec
open Wangle.Numeral

structure LengthFieldPrepender where
  lengthFieldLength : Int32 := 4
  lengthAdjustment : Int32 := 0
  lengthIncludesLengthField : Bool := false
  networkByteOrder : Bool := true
  -- the `CHECK` of the constructor
  lengthFieldLength_mem : lengthFieldLength = 1 ∨ lengthFieldLength = 2 ∨ lengthFieldLength = 4 ∨
    lengthFieldLength = 8 := by decide

namespace LengthFieldPrepender
variable (p : LengthFieldPrepender)

def length (buf : Bytes) : Int32 :=
  -- added as a `size_t`, then cut to an `int`
  let length := Int32.ofInt (p.lengthAdjustment.toInt + buf.length)
  if p.lengthIncludesLengthField then length + p.lengthFieldLength else length

def lengthField (length : Int32) : Except Thrown Bytes :=
  if p.lengthFieldLength = 1 then
    if length ≥ 256 then .error (.runtime "length does not fit byte")
    else .ok (toBytes p.networkByteOrder 1 length.toInt.toNat)
  else if p.lengthFieldLength = 2 then
    if length ≥ 65536 then .error (.runtime "length does not fit byte")
    else .ok (toBytes p.networkByteOrder 2 length.toInt.toNat)
  else if p.lengthFieldLength = 4 then .ok (toBytes p.networkByteOrder 4 length.toInt.toNat)
  else if p.lengthFieldLength = 8 then .ok (toBytes p.networkByteOrder 8 length.toInt.toNat)
  else .error (.runtime "Invalid lengthFieldLength")

def write (buf : Bytes) : Except Thrown Bytes :=
  if p.length buf < 0 then .error (.runtime "Length field < 0")
  else match p.lengthField (p.length buf) with
    | .error e => .error e
    | .ok len => .ok (len ++ buf)

end LengthFieldPrepender
end Wangle.Codec
