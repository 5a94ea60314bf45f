import Wangle.Proof.Codec.Frames
import Wangle.Codec.LengthFieldPrepender

/-!
# Documented frame layouts, and the round trip with `LengthFieldPrepender`
-/

namespace Wangle.Proof.Codec
open Wangle.Codec Wangle.Numeral LengthFieldBasedFrameDecoder

variable {d : LengthFieldBasedFrameDecoder}

theorem toUInt32_cases (a : Int32) :
    (a.toUInt32.toNat : Int) = a.toInt ∨ (a.toUInt32.toNat : Int) = a.toInt + 2 ^ 32 := by
  have equal : a.toInt = BitVec.toInt a.toUInt32.toBitVec := rfl
  rw [BitVec.toInt_eq_toNat_cond] at equal
  change a.toInt = if 2 * a.toUInt32.toNat < 2 ^ 32 then (a.toUInt32.toNat : Int)
    else a.toUInt32.toNat - (2 ^ 32 : Nat) at equal
  split at equal <;> omega

theorem adjustment_add {a : Int32} {n : UInt32} (small : n.toNat < 2 ^ 31) (nonneg : 0 ≤ a.toInt + n.toNat) :
    ((a.toUInt32 + n).toNat : Int) = a.toInt + n.toNat := by
  have upper := a.toInt_lt
  rw [UInt32.toNat_add]
  rcases toUInt32_cases a with equal | equal <;> omega

theorem declared_eq {buf : Bytes} {size : Nat} (header : d.lengthFieldEndOffset.toNat < 2 ^ 31)
    (nonneg : 0 ≤ d.lengthAdjustment.toInt + d.lengthFieldEndOffset.toNat) (bound : size < 2 ^ 32)
    (equal : (fieldValue d buf : Int) + d.lengthAdjustment.toInt + d.lengthFieldEndOffset.toNat = size) :
    declared d buf = size := by
  have sum := adjustment_add header nonneg
  unfold declared
  omega

/-! ## Layouts -/

/-- A frame as the documentation draws it: `lengthFieldOffset` bytes, the length field, and as many
further bytes as its value with the adjustment says. -/
structure Layout (d : LengthFieldBasedFrameDecoder) where
  front : Bytes
  field : Bytes
  body : Bytes
  front_length : front.length = d.lengthFieldOffset.toNat
  field_length : field.length = d.lengthFieldLength.toNat
  body_length : (body.length : Int) = ofBytes d.networkByteOrder field + d.lengthAdjustment.toInt
  stripped : d.initialBytesToStrip.toNat ≤ front.length + field.length + body.length
  within : front.length + field.length + body.length ≤ d.maxFrameLength.toNat

namespace Layout

def bytes (layout : Layout d) : Bytes := layout.front ++ layout.field ++ layout.body

theorem bytes_length (layout : Layout d) :
    layout.bytes.length = layout.front.length + layout.field.length + layout.body.length := by
  simp [bytes, Nat.add_assoc]

theorem fieldValue_bytes (layout : Layout d) :
    fieldValue d layout.bytes = ofBytes d.networkByteOrder layout.field := by
  have front : layout.bytes.drop d.lengthFieldOffset.toNat = layout.field ++ layout.body := by
    rw [bytes, List.append_assoc, ← layout.front_length, List.drop_left]
  rw [fieldValue, front, ← layout.field_length, List.take_left]

theorem sound (layout : Layout d) (width : Width d) (limit : d.maxFrameLength.toNat < 2 ^ 31) : Sound d := by
  have within := layout.within
  have front := layout.front_length
  exact ⟨width, by omega⟩

theorem frame (layout : Layout d) (width : Width d) (limit : d.maxFrameLength.toNat < 2 ^ 31)
    (nonneg : 0 ≤ d.lengthAdjustment.toInt + d.lengthFieldOffset.toNat + d.lengthFieldLength.toNat) :
    Frame d layout.bytes := by
  have header := lengthFieldEndOffset_toNat width (layout.sound width limit).offset
  have length := layout.bytes_length
  have front := layout.front_length
  have field := layout.field_length
  have body := layout.body_length
  have stripped := layout.stripped
  have within := layout.within
  have whole : declared d layout.bytes = layout.bytes.length :=
    declared_eq (by omega) (by omega) (by omega) (by rw [layout.fieldValue_bytes]; omega)
  refine ⟨⟨⟨?_, ?_, ?_, ?_⟩, ?_, ?_⟩, whole⟩ <;> omega

end Layout

theorem feedAll_layouts (width : Width d) (limit : d.maxFrameLength.toNat < 2 ^ 31)
    (nonneg : 0 ≤ d.lengthAdjustment.toInt + d.lengthFieldOffset.toNat + d.lengthFieldLength.toNat)
    (whole : List (Layout d)) (next : Layout d) (tail more : Bytes) (begins : next.bytes = tail ++ more)
    (proper : more ≠ []) (chunks : List Bytes)
    (cut : chunks.flatten = (whole.map Layout.bytes).flatten ++ tail) :
    d.decoder.feedAll () chunks =
      ⟨(), tail, whole.map fun frame => .read (frame.bytes.drop d.initialBytesToStrip.toNat), [], true⟩ := by
  have sound := next.sound width limit
  have all_frames : ∀ frame ∈ whole.map Layout.bytes, Frame d frame := by
    intro frame member
    obtain ⟨layout, -, rfl⟩ := List.mem_map.mp member
    exact layout.frame width limit nonneg
  have waits : Waits d tail := sound.waits_of_frame (begins ▸ next.frame width limit nonneg) proper
  rw [sound.feedAll_frames _ tail all_frames waits chunks cut, List.map_map]
  rfl

theorem feedAll_layouts_hi :
    (LengthFieldBasedFrameDecoder.decoder { maxFrameLength := 100 }).feedAll ()
      [[0, 0, 0], [2, 104, 105, 0], [0]] = ⟨(), [0, 0], [.read [104, 105]], [], true⟩ :=
  feedAll_layouts (d := { maxFrameLength := 100 }) (by decide) (by decide) (by decide)
    [⟨[], [0, 0, 0, 2], [104, 105], by decide, by decide, by decide, by decide, by decide⟩]
    ⟨[], [0, 0, 0, 1], [7], by decide, by decide, by decide, by decide, by decide⟩
    [0, 0] [0, 1, 7] rfl (by decide) [[0, 0, 0], [2, 104, 105, 0], [0]] rfl

/-! ## Round trip -/

structure Undoes (p : LengthFieldPrepender) (d : LengthFieldBasedFrameDecoder) : Prop where
  lengthFieldLength : d.lengthFieldLength = p.lengthFieldLength.toUInt32
  networkByteOrder : d.networkByteOrder = p.networkByteOrder
  lengthFieldOffset : d.lengthFieldOffset = 0
  lengthAdjustment : d.lengthAdjustment.toInt = -p.lengthAdjustment.toInt -
    if p.lengthIncludesLengthField then p.lengthFieldLength.toInt else 0
  initialBytesToStrip : d.initialBytesToStrip = p.lengthFieldLength.toUInt32
  nonneg : 0 ≤ d.lengthAdjustment.toInt + p.lengthFieldLength.toInt

section RoundTrip
variable {p : LengthFieldPrepender}

theorem prepender_width (p : LengthFieldPrepender) :
    (p.lengthFieldLength.toUInt32.toNat : Int) = p.lengthFieldLength.toInt ∧
      (p.lengthFieldLength.toInt = 1 ∨ p.lengthFieldLength.toInt = 2 ∨ p.lengthFieldLength.toInt = 4 ∨
        p.lengthFieldLength.toInt = 8) := by
  rcases p.lengthFieldLength_mem with equal | equal | equal | equal <;> rw [equal] <;> decide

theorem Undoes.width (undoes : Undoes p d) : Width d := by
  rw [Width, undoes.lengthFieldLength]
  rcases p.lengthFieldLength_mem with equal | equal | equal | equal <;> rw [equal] <;> decide

theorem Undoes.sound (undoes : Undoes p d) : Sound d :=
  ⟨undoes.width, by rw [undoes.lengthFieldOffset]; decide⟩

theorem ofInt_toInt {n : Int} (lower : -2 ^ 31 ≤ n) (upper : n < 2 ^ 31) : (Int32.ofInt n).toInt = n :=
  Int32.toInt_ofInt_of_le lower upper

theorem length_toInt {m : Bytes}
    (short : (m.length : Int) < 2 ^ 31 - p.lengthFieldLength.toInt - |p.lengthAdjustment.toInt|) :
    (p.length m).toInt = p.lengthAdjustment.toInt + m.length +
      if p.lengthIncludesLengthField then p.lengthFieldLength.toInt else 0 := by
  have lower := p.lengthAdjustment.le_toInt
  have upper := p.lengthAdjustment.toInt_lt
  have bounds := neg_abs_le p.lengthAdjustment.toInt
  have bounds' := le_abs_self p.lengthAdjustment.toInt
  have width := (prepender_width p).2
  have sum := ofInt_toInt (n := p.lengthAdjustment.toInt + m.length) (by omega) (by omega)
  unfold LengthFieldPrepender.length
  cases p.lengthIncludesLengthField with
  | false => simpa using sum
  | true =>
      simp only [if_true, Int32.toInt_add, sum]
      exact Int.bmod_eq_of_le (by omega) (by omega)

theorem toBytes_exact (p : LengthFieldPrepender) (width : Nat) {n : Int32} (nonneg : 0 ≤ n.toInt) (fits : n.toInt < 256 ^ width) :
    (toBytes p.networkByteOrder width n.toInt.toNat).length = width ∧
      (ofBytes p.networkByteOrder (toBytes p.networkByteOrder width n.toInt.toNat) : Int) = n.toInt := by
  have fits' : n.toInt.toNat < 256 ^ width := by
    zify
    rwa [Int.toNat_of_nonneg nonneg]
  rw [toBytes_length, ofBytes_toBytes, Nat.mod_eq_of_lt fits', Int.toNat_of_nonneg nonneg]
  exact ⟨rfl, rfl⟩

theorem lengthField_ok {n : Int32} {field : Bytes} (nonneg : 0 ≤ n.toInt)
    (done : p.lengthField n = .ok field) :
    field.length = p.lengthFieldLength.toUInt32.toNat ∧ (ofBytes p.networkByteOrder field : Int) = n.toInt := by
  have upper := n.toInt_lt
  rcases p.lengthFieldLength_mem with equal | equal | equal | equal
  · rw [LengthFieldPrepender.lengthField, if_pos equal] at done
    split at done
    · cases done
    · rename_i fits
      cases done
      rw [ge_iff_le, Int32.le_iff_toInt_le, show (256 : Int32).toInt = 256 from rfl] at fits
      rw [equal]
      exact toBytes_exact p 1 nonneg (by omega)
  · rw [LengthFieldPrepender.lengthField, if_neg (by rw [equal]; decide), if_pos equal] at done
    split at done
    · cases done
    · rename_i fits
      cases done
      rw [ge_iff_le, Int32.le_iff_toInt_le, show (65536 : Int32).toInt = 65536 from rfl] at fits
      rw [equal]
      exact toBytes_exact p 2 nonneg (by omega)
  · rw [LengthFieldPrepender.lengthField, if_neg (by rw [equal]; decide), if_neg (by rw [equal]; decide),
      if_pos equal] at done
    cases done
    rw [equal]
    exact toBytes_exact p 4 nonneg (by omega)
  · rw [LengthFieldPrepender.lengthField, if_neg (by rw [equal]; decide), if_neg (by rw [equal]; decide),
      if_neg (by rw [equal]; decide), if_pos equal] at done
    cases done
    rw [equal]
    exact toBytes_exact p 8 nonneg (by omega)

theorem write_ok {m out : Bytes} (written : p.write m = .ok out) :
    ∃ field, out = field ++ m ∧ field.length = p.lengthFieldLength.toUInt32.toNat ∧
      (ofBytes p.networkByteOrder field : Int) = (p.length m).toInt := by
  unfold LengthFieldPrepender.write at written
  split at written
  · cases written
  · rename_i nonneg
    rw [Int32.lt_iff_toInt_lt, Int32.toInt_zero, Int.not_lt] at nonneg
    split at written
    · cases written
    · rename_i field done
      cases written
      exact ⟨field, rfl, lengthField_ok nonneg done⟩

theorem Undoes.frame (undoes : Undoes p d) {m out : Bytes} (written : p.write m = .ok out)
    (short : (m.length : Int) < 2 ^ 31 - p.lengthFieldLength.toInt - |p.lengthAdjustment.toInt|)
    (within : (m.length : Int) + p.lengthFieldLength.toInt ≤ d.maxFrameLength.toNat) :
    Frame d out ∧ out.drop d.initialBytesToStrip.toNat = m := by
  obtain ⟨field, rfl, length, value⟩ := write_ok written
  obtain ⟨width, range⟩ := prepender_width p
  have header := lengthFieldEndOffset_toNat undoes.width undoes.sound.offset
  rw [undoes.lengthFieldOffset, undoes.lengthFieldLength, UInt32.toNat_zero, Nat.zero_add] at header
  have field_eq : fieldValue d (field ++ m) = ofBytes p.networkByteOrder field := by
    rw [fieldValue, undoes.lengthFieldOffset, undoes.lengthFieldLength, undoes.networkByteOrder,
      UInt32.toNat_zero, List.drop_zero, ← length, List.take_left]
  have nonneg := undoes.nonneg
  have absolute := abs_nonneg p.lengthAdjustment.toInt
  have whole : declared d (field ++ m) = (field ++ m).length := by
    apply declared_eq (by omega) (by omega) (by rw [List.length_append]; omega)
    rw [field_eq, value, length_toInt short, undoes.lengthAdjustment, List.length_append]
    omega
  have strip := undoes.initialBytesToStrip
  refine ⟨⟨⟨⟨?_, ?_, ?_, ?_⟩, ?_, ?_⟩, whole⟩, ?_⟩
  all_goals simp only [whole, strip, List.length_append, header]
  all_goals try omega
  rw [← length, List.drop_left]

theorem feedAll_write (undoes : Undoes p d) {messages outputs : List Bytes}
    (written : List.Forall₂ (fun message output => p.write message = .ok output) messages outputs)
    (short : ∀ message ∈ messages,
      (message.length : Int) < 2 ^ 31 - p.lengthFieldLength.toInt - |p.lengthAdjustment.toInt|)
    (within : ∀ message ∈ messages,
      (message.length : Int) + p.lengthFieldLength.toInt ≤ d.maxFrameLength.toNat)
    (chunks : List Bytes) (cut : chunks.flatten = outputs.flatten) :
    d.decoder.feedAll () chunks = ⟨(), [], messages.map .read, [], true⟩ := by
  have outputs_frames : (∀ output ∈ outputs, Frame d output) ∧
      outputs.map (·.drop d.initialBytesToStrip.toNat) = messages := by
    clear cut
    induction written with
    | nil => simp
    | cons written _ ih =>
        obtain ⟨frame, content⟩ := undoes.frame written (short _ List.mem_cons_self) (within _ List.mem_cons_self)
        obtain ⟨all_frames, contents⟩ := ih (fun m member => short m (List.mem_cons_of_mem _ member))
          (fun m member => within m (List.mem_cons_of_mem _ member))
        exact ⟨List.forall_mem_cons.mpr ⟨frame, all_frames⟩, by rw [List.map_cons, content, contents]⟩
  rw [undoes.sound.feedAll_frames outputs [] outputs_frames.1 undoes.sound.waits_nil chunks (by rw [cut, List.append_nil]),
    ← outputs_frames.2, List.map_map]
  rfl

theorem feedAll_write_hi :
    (LengthFieldBasedFrameDecoder.decoder {}).feedAll () [[0, 0], [0, 2, 104], [105, 0, 0, 0, 0]] =
      ⟨(), [], [.read [104, 105], .read []], [], true⟩ :=
  feedAll_write (p := {}) (d := {}) ⟨rfl, rfl, rfl, by decide, rfl, by decide⟩
    (.cons (show LengthFieldPrepender.write {} [104, 105] = .ok [0, 0, 0, 2, 104, 105] by decide)
      (.cons (show LengthFieldPrepender.write {} [] = .ok [0, 0, 0, 0] by decide) .nil))
    (by decide) (by decide) [[0, 0], [0, 2, 104], [105, 0, 0, 0, 0]] rfl

end RoundTrip
end Wangle.Proof.Codec
