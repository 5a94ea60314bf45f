import Wangle.Codec.ByteToMessageDecoder
import Wangle.Numeral.Endian

namespace Wangle.Codec
open Wangle.Numeral

def Cursor.readInteger (networkByteOrder : Bool) (width : Nat) (c : Bytes) : Except Thrown UInt64 :=
  if width ≤ c.length then .ok (UInt64.ofNat (ofBytes networkByteOrder (c.take width)))
  else .error .outOfRange

structure LengthFieldBasedFrameDecoder where
  lengthFieldLength : UInt32 := 4
  maxFrameLength : UInt32 := 0xFFFFFFFF
  lengthFieldOffset : UInt32 := 0
  lengthAdjustment : Int32 := 0
  initialBytesToStrip : UInt32 := 4
  networkByteOrder : Bool := true
  -- the `CHECK`s of the constructor
  maxFrameLength_pos : maxFrameLength > 0 := by decide
  lengthFieldOffset_le : lengthFieldOffset ≤ maxFrameLength - lengthFieldLength := by decide

namespace LengthFieldBasedFrameDecoder

/-- A negative offset becomes a `size_t` that no queue is long enough for. The variable for the
length is not initialised, and only four field lengths assign it. -/
def getUnadjustedFrameLength (buf : Bytes) (offset length : Int32) (networkByteOrder : Bool) :
    Except Thrown UInt64 :=
  if offset < 0 then .error .outOfRange
  else match Cursor.skip offset.toInt.toNat buf with
    | .error e => .error e
    | .ok c =>
        if length = 1 then Cursor.readInteger networkByteOrder 1 c
        else if length = 2 then Cursor.readInteger networkByteOrder 2 c
        else if length = 4 then Cursor.readInteger networkByteOrder 4 c
        else if length = 8 then Cursor.readInteger networkByteOrder 8 c
        else .error .indeterminate

variable (d : LengthFieldBasedFrameDecoder)

def lengthFieldEndOffset : UInt32 := d.lengthFieldOffset + d.lengthFieldLength

/-- The adjustment and the end offset are added as 32-bit unsigned numbers, their sum to the field as
64-bit ones. -/
def frameLength (buf : Bytes) : Except Thrown UInt64 :=
  match getUnadjustedFrameLength buf d.lengthFieldOffset.toInt32 d.lengthFieldLength.toInt32
    d.networkByteOrder with
  | .error e => .error e
  | .ok frameLength =>
      .ok (frameLength + (d.lengthAdjustment.toUInt32 + d.lengthFieldEndOffset).toUInt64)

def takeFrame (buf : Bytes) (frameLength : UInt64) : Decoded Unit Bytes :=
  match IOBufQueue.trimStart d.initialBytesToStrip.toNat buf with
  | .error e => .threw e () []
  | .ok buf =>
      let actualFrameLength : Int32 := (frameLength - d.initialBytesToStrip.toUInt64).toUInt32.toInt32
      -- a negative length becomes a `size_t` that no queue is long enough for
      if actualFrameLength < 0 then .threw .underflow () []
      else match IOBufQueue.split actualFrameLength.toInt.toNat buf with
        | .error e => .threw e () []
        | .ok (result, buf) => .success result () buf

def decode (buf : Bytes) : Decoded Unit Bytes :=
  if IOBufQueue.chainLength buf < d.lengthFieldEndOffset.toNat then .insufficient () buf []
  else match d.frameLength buf with
    | .error e => .threw e () buf
    | .ok frameLength =>
        if frameLength < d.lengthFieldEndOffset.toUInt64 then
          match IOBufQueue.trimStart d.lengthFieldEndOffset.toNat buf with
          | .error e => .threw e () []
          | .ok buf => .insufficient () buf [.readException "Frame too small"]
        else if frameLength > d.maxFrameLength.toUInt64 then
          .insufficient () (IOBufQueue.trimStartAtMost frameLength.toNat buf)
            [.readException ("Frame larger than " ++ toString d.maxFrameLength.toNat)]
        else if IOBufQueue.chainLength buf < frameLength.toNat then .insufficient () buf []
        else if d.initialBytesToStrip.toUInt64 > frameLength then
          match IOBufQueue.trimStart frameLength.toNat buf with
          | .error e => .threw e () []
          | .ok buf => .insufficient () buf [.readException "InitialBytesToSkip larger than frame"]
        else d.takeFrame buf frameLength

def decoder : ByteToMessageDecoder Unit Bytes := ⟨fun _ buf => d.decode buf⟩

end LengthFieldBasedFrameDecoder
end Wangle.Codec
