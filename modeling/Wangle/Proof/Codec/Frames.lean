import Wangle.Proof.Codec.FrameLength

/-!
# The frames of a length-prefixed stream
-/

namespace Wangle.Proof.Codec
open Wangle.Codec Wangle.Incremental LengthFieldBasedFrameDecoder

variable {d : LengthFieldBasedFrameDecoder}

def Waits (d : LengthFieldBasedFrameDecoder) (q : Bytes) : Prop :=
  q.length < d.lengthFieldEndOffset.toNat ∨
    d.lengthFieldEndOffset.toNat ≤ declared d q ∧ declared d q ≤ d.maxFrameLength.toNat ∧
      q.length < declared d q

structure Complete (d : LengthFieldBasedFrameDecoder) (q : Bytes) : Prop where
  enough : d.lengthFieldEndOffset.toNat ≤ q.length
  sized : d.lengthFieldEndOffset.toNat ≤ declared d q
  within : declared d q ≤ d.maxFrameLength.toNat
  complete : declared d q ≤ q.length

structure Accepted (d : LengthFieldBasedFrameDecoder) (q : Bytes) : Prop extends Complete d q where
  stripped : d.initialBytesToStrip.toNat ≤ declared d q
  fits : declared d q - d.initialBytesToStrip.toNat < 2 ^ 31

def payload (d : LengthFieldBasedFrameDecoder) (q : Bytes) : Bytes :=
  (q.take (declared d q)).drop d.initialBytesToStrip.toNat

/-- `Rejected d q token n exact`: the queue starts with a frame that is not delivered, `decode` needs
`n` bytes to see this, and under `exact` it drops just those, whatever else is queued. -/
inductive Rejected (d : LengthFieldBasedFrameDecoder) (q : Bytes) : Taken Bytes → Nat → Prop → Prop
  | tooSmall (enough : d.lengthFieldEndOffset.toNat ≤ q.length)
      (small : declared d q < d.lengthFieldEndOffset.toNat) :
      Rejected d q (.failed "Frame too small") d.lengthFieldEndOffset.toNat True
  | tooLarge (enough : d.lengthFieldEndOffset.toNat ≤ q.length)
      (sized : d.lengthFieldEndOffset.toNat ≤ declared d q)
      (large : d.maxFrameLength.toNat < declared d q) :
      Rejected d q (.failed ("Frame larger than " ++ toString d.maxFrameLength.toNat))
        d.lengthFieldEndOffset.toNat (declared d q = d.lengthFieldEndOffset.toNat)
  | overStripped (complete : Complete d q) (excess : declared d q < d.initialBytesToStrip.toNat) :
      Rejected d q (.failed "InitialBytesToSkip larger than frame") (declared d q) True
  | truncated (complete : Complete d q) (stripped : d.initialBytesToStrip.toNat ≤ declared d q)
      (excess : 2 ^ 31 ≤ declared d q - d.initialBytesToStrip.toNat) :
      Rejected d q (.lost .underflow) (declared d q) False

theorem waits_or_accepted_or_rejected (d : LengthFieldBasedFrameDecoder) (q : Bytes) :
    Waits d q ∨ Accepted d q ∨ ∃ token n exact, Rejected d q token n exact := by
  by_cases enough : d.lengthFieldEndOffset.toNat ≤ q.length
  swap; · exact .inl (.inl (Nat.not_le.mp enough))
  by_cases sized : d.lengthFieldEndOffset.toNat ≤ declared d q
  swap; · exact .inr (.inr ⟨_, _, _, .tooSmall enough (Nat.not_le.mp sized)⟩)
  by_cases within : declared d q ≤ d.maxFrameLength.toNat
  swap; · exact .inr (.inr ⟨_, _, _, .tooLarge enough sized (Nat.not_le.mp within)⟩)
  by_cases complete : declared d q ≤ q.length
  swap; · exact .inl (.inr ⟨sized, within, Nat.not_le.mp complete⟩)
  by_cases stripped : d.initialBytesToStrip.toNat ≤ declared d q
  swap; · exact .inr (.inr ⟨_, _, _, .overStripped ⟨enough, sized, within, complete⟩ (Nat.not_le.mp stripped)⟩)
  by_cases fits : declared d q - d.initialBytesToStrip.toNat < 2 ^ 31
  swap; · exact .inr (.inr ⟨_, _, _, .truncated ⟨enough, sized, within, complete⟩ stripped (Nat.not_lt.mp fits)⟩)
  exact .inr (.inl ⟨⟨enough, sized, within, complete⟩, stripped, fits⟩)

theorem Accepted.not_waits {q : Bytes} (accepted : Accepted d q) : ¬ Waits d q := by
  rintro (short | ⟨-, -, incomplete⟩)
  · exact Nat.not_lt.mpr accepted.enough short
  · exact Nat.not_lt.mpr accepted.complete incomplete

theorem Rejected.not_waits {q : Bytes} {token : Taken Bytes} {n : Nat} {exact : Prop}
    (rejected : Rejected d q token n exact) : ¬ Waits d q := by
  rintro (short | ⟨sized, within, incomplete⟩)
  · cases rejected with
    | tooSmall enough small => omega
    | tooLarge enough sized large => omega
    | overStripped complete excess => exact Nat.not_lt.mpr complete.enough short
    | truncated complete stripped excess => exact Nat.not_lt.mpr complete.enough short
  · cases rejected with
    | tooSmall enough small => omega
    | tooLarge enough sized large => omega
    | overStripped complete excess => exact Nat.not_lt.mpr complete.complete incomplete
    | truncated complete stripped excess => exact Nat.not_lt.mpr complete.complete incomplete

theorem Rejected.not_accepted {q : Bytes} {token : Taken Bytes} {n : Nat} {exact : Prop}
    (rejected : Rejected d q token n exact) : ¬ Accepted d q := by
  intro accepted
  cases rejected with
  | tooSmall enough small => exact Nat.not_lt.mpr accepted.sized small
  | tooLarge enough sized large => exact Nat.not_lt.mpr accepted.within large
  | overStripped complete excess => exact Nat.not_lt.mpr accepted.stripped excess
  | truncated complete stripped excess => exact Nat.not_lt.mpr excess accepted.fits

theorem Rejected.stops {q : Bytes} {token : Taken Bytes} {n : Nat} {exact : Prop}
    (rejected : Rejected d q token n exact) : token.Stops := by
  cases rejected <;> trivial

theorem Rejected.le_length {q : Bytes} {token : Taken Bytes} {n : Nat} {exact : Prop}
    (rejected : Rejected d q token n exact) : d.lengthFieldEndOffset.toNat ≤ n ∧ n ≤ q.length := by
  cases rejected with
  | tooSmall enough small => exact ⟨Nat.le_refl _, enough⟩
  | tooLarge enough sized large => exact ⟨Nat.le_refl _, enough⟩
  | overStripped complete excess => exact ⟨complete.sized, complete.complete⟩
  | truncated complete stripped excess => exact ⟨complete.sized, complete.complete⟩

structure Sound (d : LengthFieldBasedFrameDecoder) : Prop where
  width : Width d
  offset : d.lengthFieldOffset.toNat < 2 ^ 31

namespace Sound
variable (sound : Sound d) {q : Bytes}
include sound

theorem header_pos : 0 < d.lengthFieldEndOffset.toNat := by
  rw [lengthFieldEndOffset_toNat sound.width sound.offset]
  have := sound.width.toNat
  omega

theorem waits_nil : Waits d [] := .inl sound.header_pos

theorem decode_waits (waits : Waits d q) : d.decode q = .insufficient () q [] := by
  by_cases enough : d.lengthFieldEndOffset.toNat ≤ q.length
  · rcases waits with short | ⟨sized, within, incomplete⟩
    · exact decode_short short
    · exact decode_incomplete sound.width sound.offset enough sized within incomplete
  · exact decode_short (Nat.not_le.mp enough)

theorem decode_accepted (accepted : Accepted d q) :
    d.decode q = .success (payload d q) () (q.drop (declared d q)) :=
  decode_frame sound.width sound.offset accepted.enough accepted.sized accepted.within accepted.complete
    accepted.stripped accepted.fits

theorem decode_rejected {token : Taken Bytes} {n : Nat} {exact : Prop}
    (rejected : Rejected d q token n exact) (alone : q.length = n ∨ exact) :
    d.decode q = token.decoded () (q.drop n) := by
  cases rejected with
  | tooSmall enough small => exact decode_tooSmall sound.width sound.offset enough small
  | tooLarge enough sized large =>
      rw [decode_tooLarge sound.width sound.offset enough sized large, Taken.decoded]
      rcases alone with length | equal
      · rw [List.drop_of_length_le (by omega), List.drop_of_length_le (by omega)]
      · rw [equal]
  | overStripped complete excess =>
      exact decode_overStripped sound.width sound.offset complete.enough complete.sized complete.within
        complete.complete excess
  | truncated complete stripped excess =>
      rcases alone with length | impossible
      · rw [decode_truncated sound.width sound.offset complete.enough complete.sized complete.within
          complete.complete stripped excess, Taken.decoded, List.drop_of_length_le (by omega)]
      · exact impossible.elim

theorem declared_append (enough : d.lengthFieldEndOffset.toNat ≤ q.length) (more : Bytes) :
    declared d (q ++ more) = declared d q :=
  Codec.declared_append sound.width sound.offset enough more

theorem complete_append (complete : Complete d q) (more : Bytes) : Complete d (q ++ more) := by
  obtain ⟨enough, sized, within, complete⟩ := complete
  constructor <;> simp only [sound.declared_append enough, List.length_append] <;> omega

theorem accepted_append (accepted : Accepted d q) (more : Bytes) : Accepted d (q ++ more) := by
  refine ⟨sound.complete_append accepted.toComplete more, ?_, ?_⟩
  · rw [sound.declared_append accepted.enough]
    exact accepted.stripped
  · rw [sound.declared_append accepted.enough]
    exact accepted.fits

theorem payload_append (accepted : Accepted d q) (more : Bytes) : payload d (q ++ more) = payload d q := by
  simp only [payload, sound.declared_append accepted.enough,
    List.take_append_of_le_length accepted.complete]

theorem drop_append (accepted : Accepted d q) (more : Bytes) :
    (q ++ more).drop (declared d (q ++ more)) = q.drop (declared d q) ++ more := by
  rw [sound.declared_append accepted.enough, List.drop_append_of_le_length accepted.complete]

theorem rejected_append {token : Taken Bytes} {n : Nat} {exact : Prop}
    (rejected : Rejected d q token n exact) (more : Bytes) : Rejected d (q ++ more) token n exact := by
  cases rejected with
  | tooSmall enough small =>
      exact .tooSmall (by rw [List.length_append]; omega) (by rwa [sound.declared_append enough])
  | tooLarge enough sized large =>
      rw [← sound.declared_append enough more] at sized large ⊢
      exact .tooLarge (by rw [List.length_append]; omega) sized large
  | overStripped complete excess =>
      rw [← sound.declared_append complete.enough more] at excess ⊢
      exact .overStripped (sound.complete_append complete more) excess
  | truncated complete stripped excess =>
      rw [← sound.declared_append complete.enough more] at stripped excess ⊢
      exact .truncated (sound.complete_append complete more) stripped excess

theorem waits_of_append {more : Bytes} (waits : Waits d (q ++ more)) : Waits d q := by
  rcases waits_or_accepted_or_rejected d q with waits' | accepted | ⟨token, n, exact, rejected⟩
  · exact waits'
  · exact absurd waits (sound.accepted_append accepted more).not_waits
  · exact absurd waits (sound.rejected_append rejected more).not_waits

theorem drop_shorter {n : Nat} (header : d.lengthFieldEndOffset.toNat ≤ n)
    (enough : d.lengthFieldEndOffset.toNat ≤ q.length) : (q.drop n).length < q.length := by
  have positive := sound.header_pos
  rw [List.length_drop]
  omega

theorem decode_rejected_fails {token : Taken Bytes} {n : Nat} {exact : Prop}
    (rejected : Rejected d q token n exact) : ∃ rest, d.decode q = token.decoded () rest ∧
      ∀ what, token = .failed what → rest.length < q.length := by
  cases rejected with
  | tooSmall enough small =>
      exact ⟨_, decode_tooSmall sound.width sound.offset enough small, fun _ _ => sound.drop_shorter (Nat.le_refl _) enough⟩
  | tooLarge enough sized large =>
      exact ⟨_, decode_tooLarge sound.width sound.offset enough sized large, fun _ _ => sound.drop_shorter sized enough⟩
  | overStripped complete excess =>
      exact ⟨_, decode_overStripped sound.width sound.offset complete.enough complete.sized complete.within
        complete.complete excess, fun _ _ => sound.drop_shorter complete.sized complete.enough⟩
  | truncated complete stripped excess =>
      exact ⟨_, decode_truncated sound.width sound.offset complete.enough complete.sized complete.within
        complete.complete stripped excess, fun _ lost => by cases lost⟩

theorem accepted_of_success {result rest : Bytes} {s : Unit} (decoded : d.decode q = .success result s rest) :
    Accepted d q ∧ result = payload d q ∧ rest = q.drop (declared d q) := by
  rcases waits_or_accepted_or_rejected d q with waits | accepted | ⟨token, n, exact, rejected⟩
  · rw [sound.decode_waits waits] at decoded
    cases decoded
  · rw [sound.decode_accepted accepted] at decoded
    cases decoded
    exact ⟨accepted, rfl, rfl⟩
  · obtain ⟨rest, failed, -⟩ := sound.decode_rejected_fails rejected
    rw [failed] at decoded
    cases rejected <;> cases decoded

theorem progressive : Progressive d.decoder := by
  intro s q result s' q' decoded
  obtain ⟨accepted, -, rfl⟩ := sound.accepted_of_success decoded
  exact sound.drop_shorter accepted.sized accepted.enough

end Sound

/-! ## Frames as tokens -/

def nextFrame (d : LengthFieldBasedFrameDecoder) (q : Bytes) : Option (Taken Bytes × Bytes) :=
  if q.length < d.lengthFieldEndOffset.toNat then none
  else if declared d q < d.lengthFieldEndOffset.toNat then
    some (.failed "Frame too small", q.drop d.lengthFieldEndOffset.toNat)
  else if d.maxFrameLength.toNat < declared d q then
    some (.failed ("Frame larger than " ++ toString d.maxFrameLength.toNat),
      q.drop d.lengthFieldEndOffset.toNat)
  else if q.length < declared d q then none
  else if declared d q < d.initialBytesToStrip.toNat then
    some (.failed "InitialBytesToSkip larger than frame", q.drop (declared d q))
  else if 2 ^ 31 ≤ declared d q - d.initialBytesToStrip.toNat then
    some (.lost .underflow, q.drop (declared d q))
  else some (.frame (payload d q), q.drop (declared d q))

theorem nextFrame_waits {q : Bytes} (waits : Waits d q) : nextFrame d q = none := by
  unfold nextFrame
  rcases waits with short | ⟨sized, within, incomplete⟩
  · rw [if_pos short]
  · rw [if_neg (Nat.not_lt.mpr sized), if_neg (Nat.not_lt.mpr within), if_pos incomplete, ite_self]

theorem nextFrame_complete {q : Bytes} (complete : Complete d q) :
    nextFrame d q = if declared d q < d.initialBytesToStrip.toNat then
        some (.failed "InitialBytesToSkip larger than frame", q.drop (declared d q))
      else if 2 ^ 31 ≤ declared d q - d.initialBytesToStrip.toNat then
        some (.lost .underflow, q.drop (declared d q))
      else some (.frame (payload d q), q.drop (declared d q)) := by
  rw [nextFrame, if_neg (Nat.not_lt.mpr complete.enough), if_neg (Nat.not_lt.mpr complete.sized),
    if_neg (Nat.not_lt.mpr complete.within), if_neg (Nat.not_lt.mpr complete.complete)]

theorem nextFrame_accepted {q : Bytes} (accepted : Accepted d q) :
    nextFrame d q = some (.frame (payload d q), q.drop (declared d q)) := by
  rw [nextFrame_complete accepted.toComplete, if_neg (Nat.not_lt.mpr accepted.stripped),
    if_neg (Nat.not_le.mpr accepted.fits)]

theorem nextFrame_rejected {q : Bytes} {token : Taken Bytes} {n : Nat} {exact : Prop}
    (rejected : Rejected d q token n exact) : nextFrame d q = some (token, q.drop n) := by
  cases rejected with
  | tooSmall enough small => rw [nextFrame, if_neg (Nat.not_lt.mpr enough), if_pos small]
  | tooLarge enough sized large =>
      rw [nextFrame, if_neg (Nat.not_lt.mpr enough), if_neg (Nat.not_lt.mpr sized), if_pos large]
  | overStripped complete excess => rw [nextFrame_complete complete, if_pos excess]
  | truncated complete stripped excess =>
      rw [nextFrame_complete complete, if_neg (Nat.not_lt.mpr stripped), if_pos excess]

theorem nextFrame_none_iff {q : Bytes} : nextFrame d q = none ↔ Waits d q := by
  refine ⟨fun none => ?_, nextFrame_waits⟩
  rcases waits_or_accepted_or_rejected d q with waits | accepted | ⟨token, n, exact, rejected⟩
  · exact waits
  · simp [nextFrame_accepted accepted] at none
  · simp [nextFrame_rejected rejected] at none

theorem nextFrame_some {q rest : Bytes} {token : Taken Bytes} (next : nextFrame d q = some (token, rest)) :
    (Accepted d q ∧ token = .frame (payload d q) ∧ rest = q.drop (declared d q)) ∨
      ∃ n exact, Rejected d q token n exact ∧ rest = q.drop n := by
  rcases waits_or_accepted_or_rejected d q with waits | accepted | ⟨token', n, exact, rejected⟩
  · simp [nextFrame_waits waits] at next
  · rw [nextFrame_accepted accepted] at next
    cases next
    exact .inl ⟨accepted, rfl, rfl⟩
  · rw [nextFrame_rejected rejected] at next
    cases next
    exact .inr ⟨n, exact, rejected, rfl⟩

def frames (sound : Sound d) : Tokenizer UInt8 (Taken Bytes) where
  next := nextFrame d
  shrinks q token rest next := by
    have positive := sound.header_pos
    rcases nextFrame_some next with ⟨accepted, -, rfl⟩ | ⟨n, exact, rejected, rfl⟩
    · have sized := accepted.sized
      have complete := accepted.complete
      rw [List.length_drop]
      omega
    · have inside := rejected.le_length
      rw [List.length_drop]
      omega
  stable q token rest more next := by
    rcases nextFrame_some next with ⟨accepted, rfl, rfl⟩ | ⟨n, exact, rejected, rfl⟩
    · rw [nextFrame_accepted (sound.accepted_append accepted more), sound.payload_append accepted,
        sound.drop_append accepted]
    · rw [nextFrame_rejected (sound.rejected_append rejected more),
        List.drop_append_of_le_length rejected.le_length.2]

/-- The stream is a sequence of frames that are delivered, followed by an incomplete frame, or by one
that is rejected and then an incomplete frame. The bytes dropped with a rejected frame have to be the
same whatever is queued. -/
inductive Settled (d : LengthFieldBasedFrameDecoder) : Bytes → Prop
  | waits {q : Bytes} (waits : Waits d q) : Settled d q
  | frame {q : Bytes} (accepted : Accepted d q) (rest : Settled d (q.drop (declared d q))) : Settled d q
  | rejected {q : Bytes} {token : Taken Bytes} {n : Nat} {exact : Prop}
      (rejected : Rejected d q token n exact) (alone : q.length = n ∨ exact) (rest : Waits d (q.drop n)) :
      Settled d q

namespace Sound
variable (sound : Sound d)
include sound

theorem rejected_of_append {q more : Bytes} {token : Taken Bytes} {n : Nat} {exact : Prop}
    (rejected : Rejected d (q ++ more) token n exact) (inside : n ≤ q.length) : Rejected d q token n exact := by
  have enough := rejected.le_length.1.trans inside
  cases rejected with
  | tooSmall _ small =>
      rw [sound.declared_append enough] at small
      exact .tooSmall enough small
  | tooLarge _ sized large =>
      rw [sound.declared_append enough] at sized large ⊢
      exact .tooLarge enough sized large
  | overStripped complete excess =>
      obtain ⟨-, sized, within, -⟩ := complete
      rw [sound.declared_append enough] at sized within inside excess ⊢
      exact .overStripped ⟨enough, sized, within, inside⟩ excess
  | truncated complete stripped excess =>
      obtain ⟨-, sized, within, -⟩ := complete
      rw [sound.declared_append enough] at sized within inside stripped excess ⊢
      exact .truncated ⟨enough, sized, within, inside⟩ stripped excess

theorem waits_of_complete_append {q more : Bytes} (complete : Complete d (q ++ more))
    (short : q.length < declared d (q ++ more)) : Waits d q := by
  by_cases enough : d.lengthFieldEndOffset.toNat ≤ q.length
  · obtain ⟨-, sized, within, -⟩ := complete
    rw [sound.declared_append enough] at sized within short
    exact .inr ⟨sized, within, short⟩
  · exact .inl (Nat.not_le.mp enough)

theorem waits_of_rejected_append {q more : Bytes} {token : Taken Bytes} {n : Nat} {exact : Prop}
    (rejected : Rejected d (q ++ more) token n exact) (short : q.length < n) : Waits d q := by
  cases rejected with
  | tooSmall _ small => exact .inl short
  | tooLarge _ sized large => exact .inl short
  | overStripped complete excess => exact sound.waits_of_complete_append complete short
  | truncated complete stripped excess => exact sound.waits_of_complete_append complete short

theorem settled_of_append {q more : Bytes} (settled : Settled d (q ++ more)) : Settled d q := by
  generalize joined : q ++ more = stream at settled
  induction settled generalizing q with
  | waits waits =>
      subst joined
      exact .waits (sound.waits_of_append waits)
  | frame accepted rest ih =>
      subst joined
      rcases waits_or_accepted_or_rejected d q with waits | front | ⟨token, n, exact, rejected⟩
      · exact .waits waits
      · exact .frame front (ih (sound.drop_append front more).symm)
      · exact absurd accepted (sound.rejected_append rejected more).not_accepted
  | @rejected stream token n exact rejected alone rest =>
      subst joined
      by_cases inside : n ≤ q.length
      · rw [List.drop_append_of_le_length inside] at rest
        rw [List.length_append] at alone
        exact .rejected (sound.rejected_of_append rejected inside) (alone.imp_left (by omega))
          (sound.waits_of_append rest)
      · exact .waits (sound.waits_of_rejected_append rejected (Nat.not_le.mp inside))

theorem settled_takes {q rest : Bytes} {token : Taken Bytes} (settled : Settled d q)
    (next : nextFrame d q = some (token, rest)) :
    d.decode q = token.decoded () rest ∧ (token.Stops → Waits d rest) ∧ Settled d rest := by
  cases settled with
  | waits waits => simp [nextFrame_waits waits] at next
  | frame accepted settled =>
      rw [nextFrame_accepted accepted] at next
      cases next
      exact ⟨sound.decode_accepted accepted, False.elim, settled⟩
  | rejected rejected alone waits =>
      rw [nextFrame_rejected rejected] at next
      cases next
      exact ⟨sound.decode_rejected rejected alone, fun _ => waits, .waits waits⟩

theorem follows_frames : Follows d.decoder () (frames sound) (Settled d) where
  waits _ _ next := sound.decode_waits (nextFrame_none_iff.mp next)
  takes _ _ _ settled next := (sound.settled_takes settled next).1
  stops _ _ _ settled next stops := nextFrame_waits ((sound.settled_takes settled next).2.1 stops)
  taken _ _ _ settled next := (sound.settled_takes settled next).2.2
  begins _ _ settled := sound.settled_of_append settled

end Sound

/-! ## Whole frames -/

structure Frame (d : LengthFieldBasedFrameDecoder) (frame : Bytes) : Prop extends Accepted d frame where
  whole : declared d frame = frame.length

namespace Sound
variable (sound : Sound d)
include sound

theorem settled_frames (whole : List Bytes) (tail : Bytes) (all_frames : ∀ frame ∈ whole, Frame d frame)
    (waits : Waits d tail) :
    Settled d (whole.flatten ++ tail) ∧ (frames sound).split (whole.flatten ++ tail) =
      (whole.map fun frame => .frame (frame.drop d.initialBytesToStrip.toNat), tail) := by
  induction whole with
  | nil => exact ⟨.waits waits, (frames sound).split_of_none (nextFrame_waits waits)⟩
  | cons frame whole ih =>
      obtain ⟨settled, split⟩ := ih fun frame member => all_frames frame (List.mem_cons_of_mem _ member)
      have front := all_frames frame List.mem_cons_self
      have accepted := sound.accepted_append front.toAccepted (whole.flatten ++ tail)
      have rest := sound.drop_append front.toAccepted (whole.flatten ++ tail)
      rw [front.whole, List.drop_length, List.nil_append] at rest
      rw [List.flatten_cons, List.append_assoc]
      refine ⟨.frame accepted (by rwa [rest]), ?_⟩
      rw [(frames sound).split_of_some (nextFrame_accepted accepted), rest, split,
        sound.payload_append front.toAccepted, payload, front.whole, List.take_length]
      rfl

theorem waits_of_frame {tail more : Bytes} (frame : Frame d (tail ++ more)) (proper : more ≠ []) :
    Waits d tail := by
  apply sound.waits_of_complete_append frame.toComplete
  rw [frame.whole, List.length_append]
  exact Nat.lt_add_of_pos_right (List.length_pos_of_ne_nil proper)

theorem feedAll_frames (whole : List Bytes) (tail : Bytes) (all_frames : ∀ frame ∈ whole, Frame d frame)
    (waits : Waits d tail) (chunks : List Bytes) (cut : chunks.flatten = whole.flatten ++ tail) :
    d.decoder.feedAll () chunks =
      ⟨(), tail, whole.map fun frame => .read (frame.drop d.initialBytesToStrip.toNat), [], true⟩ := by
  obtain ⟨settled, split⟩ := sound.settled_frames whole tail all_frames waits
  rw [sound.follows_frames.feedAll _ settled chunks cut, split]
  have delivered := outcome_frames () (whole.map fun frame => frame.drop d.initialBytesToStrip.toNat) tail
  rwa [List.map_map, List.map_map] at delivered

end Sound
end Wangle.Proof.Codec
