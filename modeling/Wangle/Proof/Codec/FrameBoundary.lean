import Wangle.Proof.Codec.Layouts

/-!
# Exact lengths
-/

namespace Wangle.Proof.Codec
open Wangle.Codec Wangle.Numeral LengthFieldBasedFrameDecoder

variable {d : LengthFieldBasedFrameDecoder}

/-! ## The frame boundary -/

def boundary (d : LengthFieldBasedFrameDecoder) (buf : Bytes) : Int :=
  fieldValue d buf + d.lengthAdjustment.toInt + d.lengthFieldOffset.toNat + d.lengthFieldLength.toNat

structure ExactBoundary (d : LengthFieldBasedFrameDecoder) (buf : Bytes) : Prop where
  compared : ∃ n, d.frameLength buf = .ok n ∧ (n.toNat : Int) = boundary d buf
  delivered : ∀ result rest, d.decode buf = .success result () rest →
    d.lengthFieldEndOffset.toNat ≤ boundary d buf ∧ boundary d buf ≤ d.maxFrameLength.toNat ∧
      ∃ frame, buf = frame ++ rest ∧ (frame.length : Int) = boundary d buf ∧
        result = frame.drop d.initialBytesToStrip.toNat

/-- The field has a width that the switch reads, and no sum on the way leaves its machine type. -/
structure Representable (d : LengthFieldBasedFrameDecoder) (buf : Bytes) : Prop where
  width : Width d
  offset : d.lengthFieldOffset.toNat < 2 ^ 31
  nonneg : 0 ≤ d.lengthAdjustment.toInt + d.lengthFieldOffset.toNat + d.lengthFieldLength.toNat
  small : d.lengthAdjustment.toInt + d.lengthFieldOffset.toNat + d.lengthFieldLength.toNat < 2 ^ 32
  within : boundary d buf < 2 ^ 64

theorem width_of_frameLength {buf : Bytes} {n : UInt64} (length : d.frameLength buf = .ok n) : Width d := by
  by_contra wide
  simp only [Width, not_or] at wide
  obtain ⟨one, two, four, eight⟩ := wide
  have other : ∀ k : Int32, d.lengthFieldLength ≠ k.toUInt32 → d.lengthFieldLength.toInt32 ≠ k :=
    fun k differ equal => differ (congrArg Int32.toUInt32 equal)
  simp only [frameLength, getUnadjustedFrameLength, if_neg (other 1 one), if_neg (other 2 two),
    if_neg (other 4 four), if_neg (other 8 eight)] at length
  split at length
  · cases length
  · rename_i read
    split at read
    · cases read
    · split at read <;> cases read

theorem offset_of_frameLength {buf : Bytes} {n : UInt64} (length : d.frameLength buf = .ok n) :
    d.lengthFieldOffset.toNat < 2 ^ 31 := by
  by_contra negative
  rw [frameLength_negative (Nat.not_lt.mp negative)] at length
  cases length

theorem adjustment_mod (width : Width d) (offset : d.lengthFieldOffset.toNat < 2 ^ 31) :
    ((d.lengthAdjustment.toUInt32 + d.lengthFieldEndOffset).toNat : Int) =
      (d.lengthAdjustment.toInt + d.lengthFieldOffset.toNat + d.lengthFieldLength.toNat) % 2 ^ 32 := by
  rw [UInt32.toNat_add, lengthFieldEndOffset_toNat width offset]
  rcases toUInt32_cases d.lengthAdjustment with equal | equal <;> omega

/-- A wrapped sum differs from the true one by a multiple of 2^32 that is no multiple of 2^64. -/
theorem declared_eq_boundary_iff {buf : Bytes} (width : Width d) (offset : d.lengthFieldOffset.toNat < 2 ^ 31) :
    (declared d buf : Int) = boundary d buf ↔ Representable d buf := by
  have sum := adjustment_mod width offset
  have lower := d.lengthAdjustment.le_toInt
  have upper := d.lengthAdjustment.toInt_lt
  have widths := width.toNat
  constructor
  · intro equal
    simp only [declared, boundary] at equal
    refine ⟨width, offset, by omega, by omega, ?_⟩
    simp only [boundary]
    omega
  · intro exact
    have within := exact.within
    have nonneg := exact.nonneg
    have small := exact.small
    simp only [boundary] at within
    simp only [declared, boundary]
    omega

theorem exactBoundary_iff (d : LengthFieldBasedFrameDecoder) (buf : Bytes)
    (enough : d.lengthFieldOffset.toNat + d.lengthFieldLength.toNat ≤ buf.length) :
    ExactBoundary d buf ↔ Representable d buf := by
  constructor
  · rintro ⟨⟨n, length, equal⟩, -⟩
    have width := width_of_frameLength length
    have offset := offset_of_frameLength length
    rw [← lengthFieldEndOffset_toNat width offset] at enough
    obtain ⟨m, length', size⟩ := frameLength_eq width offset enough
    rw [length] at length'
    cases length'
    exact (declared_eq_boundary_iff width offset).mp (size ▸ equal)
  · intro exact
    have sound : Sound d := ⟨exact.width, exact.offset⟩
    rw [← lengthFieldEndOffset_toNat exact.width exact.offset] at enough
    have equal := (declared_eq_boundary_iff exact.width exact.offset).mpr exact
    constructor
    · obtain ⟨n, length, size⟩ := frameLength_eq exact.width exact.offset enough
      exact ⟨n, length, by rw [size, equal]⟩
    · intro result rest decoded
      obtain ⟨accepted, rfl, rfl⟩ := sound.accepted_of_success decoded
      rw [← equal]
      refine ⟨by exact_mod_cast accepted.sized, by exact_mod_cast accepted.within, buf.take (declared d buf),
        (List.take_append_drop _ _).symm, ?_, rfl⟩
      rw [List.length_take_of_le accepted.complete]

/-- Five bytes of body behind a two-byte field that counts itself. -/
theorem inclusive_length_exact :
    ExactBoundary { lengthFieldLength := 2, maxFrameLength := 100, lengthAdjustment := -2, initialBytesToStrip := 0 }
      [0, 7, 104, 101, 108, 108, 111] :=
  (exactBoundary_iff _ _ (by decide)).mpr ⟨by decide, by decide, by decide, by decide, by decide⟩

theorem boundary_not_exact :
    ¬ ExactBoundary { lengthFieldLength := 3, maxFrameLength := 100, lengthFieldOffset := 2, initialBytesToStrip := 0 }
        [0xCA, 0xFE, 0, 0, 2, 104, 105] ∧
      ¬ ExactBoundary { maxFrameLength := 100, lengthAdjustment := -6 } [0, 0, 0, 1, 7, 7, 7] := by
  constructor
  · rintro ⟨⟨n, length, -⟩, -⟩
    exact absurd (width_of_frameLength length) (by decide)
  · rintro ⟨⟨n, length, equal⟩, -⟩
    have wrapped : frameLength { maxFrameLength := 100, lengthAdjustment := -6 } [0, 0, 0, 1, 7, 7, 7] =
      .ok 4294967295 := by decide
    rw [length] at wrapped
    cases wrapped
    revert equal
    decide

/-! ## The prepended length -/

section Prepended
variable {p : LengthFieldPrepender}

def prepended (p : LengthFieldPrepender) (payload : Bytes) : Int :=
  payload.length + p.lengthAdjustment.toInt + if p.lengthIncludesLengthField then p.lengthFieldLength.toInt else 0

def Encodes (p : LengthFieldPrepender) (payload : Bytes) : Prop :=
  ∀ out, p.write payload = .ok out → ∃ field, out = field ++ payload ∧
    field.length = p.lengthFieldLength.toUInt32.toNat ∧ (ofBytes p.networkByteOrder field : Int) = prepended p payload

def fieldRange (p : LengthFieldPrepender) : Int := min (2 ^ 31) (256 ^ p.lengthFieldLength.toUInt32.toNat)

theorem length_bmod (payload : Bytes) : (p.length payload).toInt = (prepended p payload).bmod (2 ^ 32) := by
  have sum : (Int32.ofInt (p.lengthAdjustment.toInt + payload.length)).toInt =
      (p.lengthAdjustment.toInt + payload.length).bmod (2 ^ 32) := Int32.toInt_ofInt ..
  unfold LengthFieldPrepender.length prepended
  cases p.lengthIncludesLengthField with
  | false =>
      simp only [Bool.false_eq_true, if_false, sum, Int.add_zero]
      rw [Int.add_comm]
  | true =>
      simp only [if_true, Int32.toInt_add, sum, Int.bmod_add_bmod]
      congr 1
      omega

theorem lengthField_of_lt {n : Int32} (fits : n.toInt < fieldRange p) : ∃ field, p.lengthField n = .ok field := by
  rcases p.lengthFieldLength_mem with equal | equal | equal | equal
  · have range : fieldRange p = 256 := by rw [fieldRange, equal]; rfl
    have short : ¬ n ≥ 256 := by
      rw [ge_iff_le, Int32.le_iff_toInt_le, show (256 : Int32).toInt = 256 from rfl]
      omega
    simp [LengthFieldPrepender.lengthField, equal, short]
  · have range : fieldRange p = 65536 := by rw [fieldRange, equal]; rfl
    have short : ¬ n ≥ 65536 := by
      rw [ge_iff_le, Int32.le_iff_toInt_le, show (65536 : Int32).toInt = 65536 from rfl]
      omega
    simp [LengthFieldPrepender.lengthField, equal, short]
  · simp [LengthFieldPrepender.lengthField, equal]
  · simp [LengthFieldPrepender.lengthField, equal]

theorem lt_of_lengthField {n : Int32} {field : Bytes} (nonneg : 0 ≤ n.toInt) (done : p.lengthField n = .ok field) :
    n.toInt < fieldRange p := by
  obtain ⟨length, value⟩ := lengthField_ok nonneg done
  have upper := n.toInt_lt
  have bound := ofBytes_lt p.networkByteOrder field
  rw [length] at bound
  rw [fieldRange, lt_min_iff]
  exact ⟨upper, by rw [← value]; exact_mod_cast bound⟩

theorem write_iff (payload : Bytes) :
    (∃ out, p.write payload = .ok out) ↔ 0 ≤ (p.length payload).toInt ∧ (p.length payload).toInt < fieldRange p := by
  constructor
  · rintro ⟨out, written⟩
    unfold LengthFieldPrepender.write at written
    split at written
    · cases written
    · rename_i nonneg
      rw [Int32.lt_iff_toInt_lt, Int32.toInt_zero, Int.not_lt] at nonneg
      split at written
      · cases written
      · rename_i field done
        exact ⟨nonneg, lt_of_lengthField nonneg done⟩
  · rintro ⟨nonneg, fits⟩
    obtain ⟨field, done⟩ := lengthField_of_lt fits
    refine ⟨field ++ payload, ?_⟩
    rw [← Int.not_lt, ← Int32.toInt_zero, ← Int32.lt_iff_toInt_lt] at nonneg
    simp only [LengthFieldPrepender.write, if_neg nonneg, done]

theorem length_cases (payload : Bytes) :
    (p.length payload).toInt = prepended p payload % 2 ^ 32 ∧ prepended p payload % 2 ^ 32 < 2 ^ 31 ∨
      (p.length payload).toInt < 0 ∧ 2 ^ 31 ≤ prepended p payload % 2 ^ 32 := by
  have cut := length_bmod (p := p) payload
  rw [Int.bmod_def] at cut
  split at cut <;> omega

theorem Encodes.fits {payload : Bytes} (encodes : Encodes p payload) :
    prepended p payload < 2 ^ 32 ∨ fieldRange p ≤ prepended p payload % 2 ^ 32 := by
  by_contra! wrapped
  obtain ⟨large, short⟩ := wrapped
  have range : fieldRange p ≤ 2 ^ 31 := min_le_left _ _
  rcases length_cases (p := p) payload with ⟨length, -⟩ | ⟨-, refused⟩
  · obtain ⟨out, written⟩ := (write_iff (p := p) payload).mpr ⟨by omega, by omega⟩
    obtain ⟨field, rfl, -, value⟩ := write_ok written
    obtain ⟨field', equal, -, exact⟩ := encodes _ written
    rw [List.append_cancel_right equal, exact] at value
    omega
  · omega

theorem encodes_iff (p : LengthFieldPrepender) (payload : Bytes) :
    Encodes p payload ↔ prepended p payload < 2 ^ 32 ∨ fieldRange p ≤ prepended p payload % 2 ^ 32 := by
  refine ⟨Encodes.fits, ?_⟩
  intro fits out written
  obtain ⟨nonneg, short⟩ := (write_iff payload).mp ⟨out, written⟩
  obtain ⟨field, rfl, length, value⟩ := write_ok written
  have lower : -2 ^ 31 ≤ prepended p payload := by
    have adjustment := p.lengthAdjustment.le_toInt
    have width := (prepender_width p).2
    rw [prepended]
    split <;> omega
  refine ⟨field, rfl, length, ?_⟩
  rw [value]
  rcases length_cases (p := p) payload with ⟨equal, low⟩ | ⟨negative, -⟩ <;> omega

theorem not_encodes_of_length {payload : Bytes} (long : payload.length = 2 ^ 32) : ¬ Encodes {} payload := by
  intro encodes
  have length : prepended {} payload = 2 ^ 32 := by simp [prepended, long]
  have fits := encodes.fits
  rw [length] at fits
  revert fits
  decide

theorem write_not_exact : ¬ Encodes {} (List.replicate (2 ^ 32) 0) := not_encodes_of_length List.length_replicate

end Prepended

/-! ## Reading to the end -/

inductive Reads {σ M : Type} (d : ByteToMessageDecoder σ M) (s : σ) (q : Bytes) : σ → Bytes → Prop
  | here : Reads d s q s q
  | next {s₁ q₁ s₂ q₂ result} (reads : Reads d s q s₁ q₁) (decoded : d.decode s₁ q₁ = .success result s₂ q₂) :
      Reads d s q s₂ q₂

/-- One `decode`: what it delivers or reports leaves a shorter queue, and it asks its queue for no
more than the queue holds. -/
structure Consumes (d : LengthFieldBasedFrameDecoder) (q : Bytes) : Prop where
  delivered : ∀ result rest, d.decode q = .success result () rest → rest.length < q.length
  reported : ∀ fired rest, d.decode q = .insufficient () rest fired → fired ≠ [] → rest.length < q.length
  held : ∀ rest, d.decode q ≠ .threw .underflow () rest

structure ReadsTotally (d : LengthFieldBasedFrameDecoder) (q : Bytes) : Prop where
  finished : (d.decoder.read () q).finished = true
  consumes : ∀ q', Reads d.decoder () q () q' → Consumes d q'
  -- an offset that is negative as an `int` makes the cursor throw
  thrown : d.lengthFieldOffset.toNat < 2 ^ 31 → (d.decoder.read () q).thrown = []

/-- A complete frame that is longer than an `int` can say once its header is stripped. -/
structure TooLong (d : LengthFieldBasedFrameDecoder) (q : Bytes) : Prop extends Complete d q where
  excess : 2 ^ 31 ≤ declared d q - d.initialBytesToStrip.toNat

inductive Remains (d : LengthFieldBasedFrameDecoder) (q : Bytes) : Bytes → Prop
  | here : Remains d q q
  | next {q' : Bytes} (remains : Remains d q q') (accepted : Accepted d q') : Remains d q (q'.drop (declared d q'))

/-- Where a field is read at all, the frames that are split off do not lead to one that is too long. -/
def Splittable (d : LengthFieldBasedFrameDecoder) (q : Bytes) : Prop :=
  d.lengthFieldOffset.toNat < 2 ^ 31 → ∀ q', Remains d q q' → ¬ TooLong d q'

theorem Remains.trans {q q₁ q₂ : Bytes} (first : Remains d q q₁) (second : Remains d q₁ q₂) : Remains d q q₂ := by
  induction second with
  | here => exact first
  | next _ accepted ih => exact .next ih accepted

theorem decode_of_negative (offset : 2 ^ 31 ≤ d.lengthFieldOffset.toNat) (q : Bytes) :
    d.decode q = .insufficient () q [] ∨ d.decode q = .threw .outOfRange () q := by
  by_cases short : q.length < d.lengthFieldEndOffset.toNat
  · exact .inl (decode_short short)
  · exact .inr (decode_negative offset (Nat.not_lt.mp short))

theorem consumes_of_negative (offset : 2 ^ 31 ≤ d.lengthFieldOffset.toNat) (q : Bytes) : Consumes d q := by
  rcases decode_of_negative offset q with decoded | decoded
  all_goals constructor <;> simp [decoded]

namespace Sound
variable (sound : Sound d) {q : Bytes}
include sound

theorem decode_cases (short : ¬ TooLong d q) :
    d.decode q = .insufficient () q [] ∨
      (Accepted d q ∧ d.decode q = .success (payload d q) () (q.drop (declared d q)) ∧
        (q.drop (declared d q)).length < q.length) ∨
      ∃ what rest, d.decode q = .insufficient () rest [.readException what] ∧ rest.length < q.length := by
  rcases waits_or_accepted_or_rejected d q with waits | accepted | ⟨token, n, exact, rejected⟩
  · exact .inl (sound.decode_waits waits)
  · exact .inr (.inl ⟨accepted, sound.decode_accepted accepted, sound.drop_shorter accepted.sized accepted.enough⟩)
  · cases token with
    | frame message => cases rejected
    | failed what =>
        obtain ⟨rest, failed, shorter⟩ := sound.decode_rejected_fails rejected
        exact .inr (.inr ⟨what, rest, failed, shorter what rfl⟩)
    | lost e =>
        cases rejected with
        | truncated complete stripped excess => exact absurd ⟨complete, excess⟩ short

theorem consumes (short : ¬ TooLong d q) : Consumes d q := by
  rcases sound.decode_cases short with decoded | ⟨-, decoded, shorter⟩ | ⟨what, rest, decoded, shorter⟩
  all_goals constructor <;> simp_all

theorem not_consumes (long : TooLong d q) : ¬ Consumes d q := by
  intro consumes
  have excess := long.excess
  exact consumes.held [] (decode_truncated sound.width sound.offset long.enough long.sized long.within long.complete
    (by omega) excess)

theorem read_thrown (splittable : ∀ q', Remains d q q' → ¬ TooLong d q') : (d.decoder.read () q).thrown = [] := by
  induction size : q.length using Nat.strongRecOn generalizing q with
  | _ n ih =>
      rcases sound.decode_cases (splittable q .here) with
        decoded | ⟨accepted, decoded, shorter⟩ | ⟨what, rest, decoded, shorter⟩
      · rw [read_insufficient (d := d.decoder) decoded]
      · rw [read_success sound.progressive decoded]
        refine ih _ (size ▸ shorter) (fun q' remains => ?_) rfl
        exact splittable q' (Remains.trans (.next .here accepted) remains)
      · rw [read_insufficient (d := d.decoder) decoded]

theorem reads_iff {q' : Bytes} {s : Unit} : Reads d.decoder () q s q' ↔ Remains d q q' := by
  constructor
  · intro reads
    induction reads with
    | here => exact .here
    | next reads decoded ih =>
        obtain ⟨accepted, rfl, rfl⟩ := sound.accepted_of_success decoded
        exact .next ih accepted
  · intro remains
    induction remains with
    | here => exact .here
    | next remains accepted ih => exact .next ih (sound.decode_accepted accepted)

end Sound

theorem progressive_of_width (width : Width d) : Progressive d.decoder := by
  by_cases offset : d.lengthFieldOffset.toNat < 2 ^ 31
  · exact Sound.progressive ⟨width, offset⟩
  · intro s q result s' q' decoded
    replace decoded : d.decode q = .success result s' q' := decoded
    rcases decode_of_negative (Nat.not_lt.mp offset) q with ended | ended <;> rw [ended] at decoded <;> cases decoded

theorem reads_totally_iff (width : Width d) (q : Bytes) : ReadsTotally d q ↔ Splittable d q := by
  constructor
  · intro total offset q' remains long
    have sound : Sound d := ⟨width, offset⟩
    exact sound.not_consumes long (total.consumes q' (sound.reads_iff.mpr remains))
  · intro splittable
    refine ⟨read_finished (progressive_of_width width) () q, fun q' reads => ?_, fun offset => ?_⟩
    · by_cases offset : d.lengthFieldOffset.toNat < 2 ^ 31
      · have sound : Sound d := ⟨width, offset⟩
        exact sound.consumes (splittable offset q' (sound.reads_iff.mp reads))
      · exact consumes_of_negative (Nat.not_lt.mp offset) q'
    · exact Sound.read_thrown ⟨width, offset⟩ (splittable offset)

theorem small_limit_reads_totally :
    ReadsTotally { maxFrameLength := 10 } [0, 0, 0, 2, 104, 105, 0, 0, 0, 99, 1] := by
  refine (reads_totally_iff (by decide) _).mpr fun _ q' _ long => ?_
  have within : declared _ q' ≤ 10 := long.within
  have excess := long.excess
  omega

theorem not_consumes_of_length {body : Bytes} (long : body.length = 2 ^ 31) :
    ¬ Consumes {} ([0x80, 0, 0, 0] ++ body) := by
  intro consumes
  have size : declared {} ([0x80, 0, 0, 0] ++ body) = 2 ^ 31 + 4 := rfl
  have total : ([0x80, 0, 0, 0] ++ body).length = 2 ^ 31 + 4 := by rw [List.length_append, long]; rfl
  refine consumes.held [] (decode_truncated (by decide) (by decide) ?_ ?_ ?_ ?_ ?_ ?_)
  all_goals simp only [size, total]
  all_goals decide

theorem read_not_total : ¬ ReadsTotally {} ([0x80, 0, 0, 0] ++ List.replicate (2 ^ 31) 0) :=
  fun total => not_consumes_of_length List.length_replicate (total.consumes _ .here)

end Wangle.Proof.Codec
