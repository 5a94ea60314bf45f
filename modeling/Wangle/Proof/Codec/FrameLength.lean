import Wangle.Proof.Codec.Reading
import Wangle.Codec.LengthFieldBasedFrameDecoder

/-!
# The branches of `LengthFieldBasedFrameDecoder::decode`
-/

namespace Wangle.Proof.Codec
open Wangle.Codec Wangle.Numeral LengthFieldBasedFrameDecoder

theorem toInt32_toInt (n : UInt32) : n.toInt32.toInt = (n.toNat : Int).bmod (2 ^ 32) :=
  BitVec.toInt_eq_toNat_bmod n.toBitVec

theorem toInt32_of_lt {n : UInt32} (small : n.toNat < 2 ^ 31) : n.toInt32.toInt = n.toNat := by
  rw [toInt32_toInt]
  exact Int.bmod_eq_of_le (by omega) (by omega)

theorem toInt32_nonneg {n : UInt32} (small : n.toNat < 2 ^ 31) : ¬ n.toInt32 < 0 := by
  rw [Int32.lt_iff_toInt_lt, toInt32_of_lt small, Int32.toInt_zero]
  omega

theorem toInt32_neg {n : UInt32} (large : 2 ^ 31 ≤ n.toNat) : n.toInt32 < 0 := by
  rw [Int32.lt_iff_toInt_lt, toInt32_toInt, Int32.toInt_zero]
  have := n.toNat_lt
  rw [Int.bmod_def]
  split <;> omega

variable {d : LengthFieldBasedFrameDecoder}

def Width (d : LengthFieldBasedFrameDecoder) : Prop :=
  d.lengthFieldLength = 1 ∨ d.lengthFieldLength = 2 ∨ d.lengthFieldLength = 4 ∨ d.lengthFieldLength = 8

instance (d : LengthFieldBasedFrameDecoder) : Decidable (Width d) := inferInstanceAs (Decidable (_ ∨ _))

def fieldValue (d : LengthFieldBasedFrameDecoder) (buf : Bytes) : Nat :=
  ofBytes d.networkByteOrder ((buf.drop d.lengthFieldOffset.toNat).take d.lengthFieldLength.toNat)

theorem Width.toNat (width : Width d) :
    d.lengthFieldLength.toNat = 1 ∨ d.lengthFieldLength.toNat = 2 ∨ d.lengthFieldLength.toNat = 4 ∨
      d.lengthFieldLength.toNat = 8 := by
  rcases width with equal | equal | equal | equal <;> rw [equal] <;> decide

theorem lengthFieldEndOffset_toNat (width : Width d) (offset : d.lengthFieldOffset.toNat < 2 ^ 31) :
    d.lengthFieldEndOffset.toNat = d.lengthFieldOffset.toNat + d.lengthFieldLength.toNat := by
  rw [lengthFieldEndOffset, UInt32.toNat_add]
  have := width.toNat
  omega

theorem frameLength_negative (offset : 2 ^ 31 ≤ d.lengthFieldOffset.toNat) (buf : Bytes) :
    d.frameLength buf = .error .outOfRange := by
  simp only [frameLength, getUnadjustedFrameLength, toInt32_neg offset, if_true]

def declared (d : LengthFieldBasedFrameDecoder) (buf : Bytes) : Nat :=
  (fieldValue d buf + (d.lengthAdjustment.toUInt32 + d.lengthFieldEndOffset).toNat) % 2 ^ 64

section Header
variable (width : Width d) (offset : d.lengthFieldOffset.toNat < 2 ^ 31) {buf : Bytes}
  (enough : d.lengthFieldEndOffset.toNat ≤ buf.length)
include width offset enough

theorem getUnadjustedFrameLength_eq :
    getUnadjustedFrameLength buf d.lengthFieldOffset.toInt32 d.lengthFieldLength.toInt32 d.networkByteOrder =
      .ok (UInt64.ofNat (fieldValue d buf)) := by
  rw [lengthFieldEndOffset_toNat width offset] at enough
  have skipped : d.lengthFieldOffset.toNat ≤ buf.length := by omega
  simp only [getUnadjustedFrameLength, if_neg (toInt32_nonneg offset), toInt32_of_lt offset,
    Int.toNat_natCast, Cursor.skip, if_pos skipped, Cursor.readInteger, List.length_drop, fieldValue]
  rcases width with equal | equal | equal | equal <;> rw [equal] at enough ⊢
  · have inside : 1 ≤ buf.length - d.lengthFieldOffset.toNat := by simp at enough; omega
    simp [inside]
  · have inside : 2 ≤ buf.length - d.lengthFieldOffset.toNat := by simp at enough; omega
    simp [inside]
  · have inside : 4 ≤ buf.length - d.lengthFieldOffset.toNat := by simp at enough; omega
    simp [inside]
  · have inside : 8 ≤ buf.length - d.lengthFieldOffset.toNat := by simp at enough; omega
    simp [inside]

theorem frameLength_eq : ∃ n, d.frameLength buf = .ok n ∧ n.toNat = declared d buf := by
  refine ⟨UInt64.ofNat (fieldValue d buf) + (d.lengthAdjustment.toUInt32 + d.lengthFieldEndOffset).toUInt64,
    ?_, ?_⟩
  · simp only [frameLength, getUnadjustedFrameLength_eq width offset enough]
  · simp [declared]

theorem declared_append (more : Bytes) : declared d (buf ++ more) = declared d buf := by
  rw [lengthFieldEndOffset_toNat width offset] at enough
  simp only [declared, fieldValue]
  rw [List.drop_append_of_le_length (by omega),
    List.take_append_of_le_length (by rw [List.length_drop]; omega)]

end Header

/-! ## The branches -/

theorem decode_short {buf : Bytes} (short : buf.length < d.lengthFieldEndOffset.toNat) :
    d.decode buf = .insufficient () buf [] := by
  rw [decode]
  exact if_pos short

theorem decode_negative (offset : 2 ^ 31 ≤ d.lengthFieldOffset.toNat) {buf : Bytes}
    (enough : d.lengthFieldEndOffset.toNat ≤ buf.length) :
    d.decode buf = .threw .outOfRange () buf := by
  simp only [decode, IOBufQueue.chainLength, if_neg (Nat.not_lt.mpr enough), frameLength_negative offset]

theorem toUInt64_lt {m : UInt32} {n : UInt64} : m.toUInt64 < n ↔ m.toNat < n.toNat := by
  rw [UInt64.lt_iff_toNat_lt, UInt32.toNat_toUInt64]

theorem lt_toUInt64 {m : UInt32} {n : UInt64} : n < m.toUInt64 ↔ n.toNat < m.toNat := by
  rw [UInt64.lt_iff_toNat_lt, UInt32.toNat_toUInt64]

section Branches
variable (width : Width d) (offset : d.lengthFieldOffset.toNat < 2 ^ 31) {buf : Bytes}
  (enough : d.lengthFieldEndOffset.toNat ≤ buf.length)
include width offset enough

theorem decode_tooSmall (small : declared d buf < d.lengthFieldEndOffset.toNat) :
    d.decode buf = .insufficient () (buf.drop d.lengthFieldEndOffset.toNat)
      [.readException "Frame too small"] := by
  obtain ⟨n, length, size⟩ := frameLength_eq width offset enough
  rw [← size, ← lt_toUInt64] at small
  simp only [decode, IOBufQueue.chainLength, if_neg (Nat.not_lt.mpr enough), length, if_pos small,
    IOBufQueue.trimStart, if_pos enough]

variable (sized : d.lengthFieldEndOffset.toNat ≤ declared d buf)
include sized

theorem decode_tooLarge (large : d.maxFrameLength.toNat < declared d buf) :
    d.decode buf = .insufficient () (buf.drop (declared d buf))
      [.readException ("Frame larger than " ++ toString d.maxFrameLength.toNat)] := by
  obtain ⟨n, length, size⟩ := frameLength_eq width offset enough
  rw [← size, ← Nat.not_lt, ← lt_toUInt64] at sized
  rw [← size, ← toUInt64_lt] at large
  simp only [decode, IOBufQueue.chainLength, if_neg (Nat.not_lt.mpr enough), length, if_neg sized, gt_iff_lt,
    if_pos large, IOBufQueue.trimStartAtMost, size]

variable (within : declared d buf ≤ d.maxFrameLength.toNat)
include within

theorem decode_sized :
    ∃ n : UInt64, n.toNat = declared d buf ∧
      d.decode buf = if buf.length < n.toNat then .insufficient () buf []
        else if d.initialBytesToStrip.toUInt64 > n then
          match IOBufQueue.trimStart n.toNat buf with
          | .error e => .threw e () []
          | .ok buf => .insufficient () buf [.readException "InitialBytesToSkip larger than frame"]
        else d.takeFrame buf n := by
  obtain ⟨n, length, size⟩ := frameLength_eq width offset enough
  rw [← size, ← Nat.not_lt, ← lt_toUInt64] at sized
  rw [← size, ← Nat.not_lt, ← toUInt64_lt] at within
  refine ⟨n, size, ?_⟩
  cases trimmed : IOBufQueue.trimStart n.toNat buf with
  | error e =>
      simp only [decode, IOBufQueue.chainLength, if_neg (Nat.not_lt.mpr enough), length, if_neg sized, gt_iff_lt,
        if_neg within, trimmed]
  | ok rest =>
      simp only [decode, IOBufQueue.chainLength, if_neg (Nat.not_lt.mpr enough), length, if_neg sized, gt_iff_lt,
        if_neg within, trimmed]

theorem decode_incomplete (incomplete : buf.length < declared d buf) :
    d.decode buf = .insufficient () buf [] := by
  obtain ⟨n, size, decoded⟩ := decode_sized width offset enough sized within
  rw [decoded, if_pos (size ▸ incomplete)]

variable (complete : declared d buf ≤ buf.length)
include complete

theorem decode_overStripped (excess : declared d buf < d.initialBytesToStrip.toNat) :
    d.decode buf = .insufficient () (buf.drop (declared d buf))
      [.readException "InitialBytesToSkip larger than frame"] := by
  obtain ⟨n, size, decoded⟩ := decode_sized width offset enough sized within
  rw [← size] at complete excess ⊢
  rw [decoded, if_neg (Nat.not_lt.mpr complete), if_pos (lt_toUInt64.mpr excess)]
  simp only [IOBufQueue.trimStart, if_pos complete]

variable (stripped : d.initialBytesToStrip.toNat ≤ declared d buf)
include stripped

theorem decode_complete :
    ∃ actual : UInt32, actual.toNat = declared d buf - d.initialBytesToStrip.toNat ∧
      d.decode buf = if actual.toInt32 < 0 then .threw .underflow () []
        else match IOBufQueue.split actual.toInt32.toInt.toNat (buf.drop d.initialBytesToStrip.toNat) with
          | .error e => .threw e () []
          | .ok (result, buf) => .success result () buf := by
  obtain ⟨n, size, decoded⟩ := decode_sized width offset enough sized within
  rw [← size] at complete stripped within ⊢
  refine ⟨(n - d.initialBytesToStrip.toUInt64).toUInt32, ?_, ?_⟩
  · have bound := d.maxFrameLength.toNat_lt
    have stripped' : d.initialBytesToStrip.toUInt64 ≤ n := by
      rwa [UInt64.le_iff_toNat_le, UInt32.toNat_toUInt64]
    rw [UInt64.toNat_toUInt32, UInt64.toNat_sub_of_le _ _ stripped', UInt32.toNat_toUInt64]
    omega
  · rw [decoded, if_neg (Nat.not_lt.mpr complete), if_neg (fun excess => Nat.not_lt.mpr stripped (lt_toUInt64.mp excess))]
    cases taken : IOBufQueue.split (n - d.initialBytesToStrip.toUInt64).toUInt32.toInt32.toInt.toNat
        (buf.drop d.initialBytesToStrip.toNat) with
    | error e => simp only [takeFrame, IOBufQueue.trimStart, if_pos (stripped.trans complete), taken]
    | ok result => simp only [takeFrame, IOBufQueue.trimStart, if_pos (stripped.trans complete), taken]

theorem decode_frame (fits : declared d buf - d.initialBytesToStrip.toNat < 2 ^ 31) :
    d.decode buf = .success ((buf.take (declared d buf)).drop d.initialBytesToStrip.toNat) ()
      (buf.drop (declared d buf)) := by
  obtain ⟨actual, size, decoded⟩ := decode_complete width offset enough sized within complete stripped
  have rest : declared d buf - d.initialBytesToStrip.toNat ≤ (buf.drop d.initialBytesToStrip.toNat).length := by
    rw [List.length_drop]
    omega
  rw [decoded, if_neg (toInt32_nonneg (by omega)), toInt32_of_lt (by omega)]
  simp only [Int.toNat_natCast, IOBufQueue.split, size, if_pos rest, List.drop_drop, List.drop_take,
    Nat.add_sub_cancel' stripped]

theorem decode_truncated (excess : 2 ^ 31 ≤ declared d buf - d.initialBytesToStrip.toNat) :
    d.decode buf = .threw .underflow () [] := by
  obtain ⟨actual, size, decoded⟩ := decode_complete width offset enough sized within complete stripped
  rw [decoded, if_pos (toInt32_neg (by omega))]

end Branches
end Wangle.Proof.Codec
