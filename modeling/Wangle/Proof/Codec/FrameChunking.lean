import Wangle.Proof.Codec.Frames

/-!
# When the cutting of a length-prefixed stream makes no difference

`decode` returns false after it has dropped a rejected frame, so what is queued behind it is not looked
at before the next chunk, and of a frame that is too large it drops only what has been queued.
-/

namespace Wangle.Proof.Codec
open Wangle.Codec Wangle.Incremental LengthFieldBasedFrameDecoder

variable {d : LengthFieldBasedFrameDecoder}

def SameDelivery (r r' : Reading Unit Bytes) : Prop := r.fired = r'.fired ∧ r.queue = r'.queue

/-- However the stream is cut, the same is fired and the same bytes are left. -/
def ChunkingIndependent (d : LengthFieldBasedFrameDecoder) (stream : Bytes) : Prop :=
  ∀ chunks chunks' : List Bytes, chunks.flatten = stream → chunks'.flatten = stream →
    SameDelivery (d.decoder.feedAll () chunks) (d.decoder.feedAll () chunks')

def CutAgrees (d : LengthFieldBasedFrameDecoder) (stream : Bytes) (n : Nat) : Prop :=
  let first := d.decoder.read () (stream.take n)
  let second := d.decoder.read () (first.queue ++ stream.drop n)
  (d.decoder.read () stream).fired = first.fired ++ second.fired ∧
    (d.decoder.read () stream).queue = second.queue

theorem ChunkingIndependent.cutAgrees {stream : Bytes} (independent : ChunkingIndependent d stream) (n : Nat) :
    CutAgrees d stream n := by
  have same := independent [stream] [stream.take n, stream.drop n] (by simp) (by simp)
  simp only [SameDelivery, ByteToMessageDecoder.feedAll, List.foldl_cons, List.foldl_nil,
    ByteToMessageDecoder.feed, List.nil_append] at same
  exact same

theorem feedAll_negative (offset : 2 ^ 31 ≤ d.lengthFieldOffset.toNat) (chunks : List Bytes) :
    (d.decoder.feedAll () chunks).fired = [] ∧ (d.decoder.feedAll () chunks).queue = chunks.flatten := by
  induction chunks using List.reverseRecOn with
  | nil => exact ⟨rfl, rfl⟩
  | append_singleton chunks chunk ih =>
      have quiet (q : Bytes) : (d.decoder.read () q).fired = [] ∧ (d.decoder.read () q).queue = q := by
        by_cases enough : d.lengthFieldEndOffset.toNat ≤ q.length
        · rw [read_threw (d := d.decoder) (decode_negative offset enough)]
          exact ⟨rfl, rfl⟩
        · rw [read_insufficient (d := d.decoder) (decode_short (Nat.not_le.mp enough))]
          exact ⟨rfl, rfl⟩
      rw [feedAll_concat]
      simp [ByteToMessageDecoder.feed, ih, quiet]

namespace Sound
variable (sound : Sound d)
include sound

theorem read_quiet {q : Bytes} (quiet : (d.decoder.read () q).fired = []) :
    (Waits d q ∧ (d.decoder.read () q).queue = q) ∨ ((d.decoder.read () q).queue = [] ∧ 2 ^ 31 ≤ q.length) := by
  rcases waits_or_accepted_or_rejected d q with waits | accepted | ⟨token, n, exact, rejected⟩
  · rw [read_insufficient (d := d.decoder) (sound.decode_waits waits)]
    exact .inl ⟨waits, rfl⟩
  · rw [read_success sound.progressive (sound.decode_accepted accepted)] at quiet
    cases quiet
  · cases rejected with
    | tooSmall enough small =>
        rw [read_insufficient (d := d.decoder) (decode_tooSmall sound.width sound.offset enough small)] at quiet
        cases quiet
    | tooLarge enough sized large =>
        rw [read_insufficient (d := d.decoder)
          (decode_tooLarge sound.width sound.offset enough sized large)] at quiet
        cases quiet
    | overStripped complete excess =>
        rw [read_insufficient (d := d.decoder) (decode_overStripped sound.width sound.offset complete.enough
          complete.sized complete.within complete.complete excess)] at quiet
        cases quiet
    | truncated complete stripped excess =>
        rw [read_threw (d := d.decoder) (decode_truncated sound.width sound.offset complete.enough
          complete.sized complete.within complete.complete stripped excess)]
        have whole := complete.complete
        exact .inr ⟨rfl, by omega⟩

theorem declared_take {q : Bytes} {n : Nat} (enough : d.lengthFieldEndOffset.toNat ≤ (q.take n).length) :
    declared d (q.take n) = declared d q := by
  rw [← sound.declared_append enough (q.drop n), List.take_append_drop]

theorem accepted_take {q : Bytes} (accepted : Accepted d q) {n : Nat} (inside : declared d q ≤ n) :
    Accepted d (q.take n) ∧ declared d (q.take n) = declared d q := by
  obtain ⟨⟨enough, sized, within, complete⟩, stripped, fits⟩ := accepted
  have front : d.lengthFieldEndOffset.toNat ≤ (q.take n).length := by rw [List.length_take]; omega
  have same := sound.declared_take front
  refine ⟨⟨⟨front, ?_, ?_, ?_⟩, ?_, ?_⟩, same⟩ <;> simp only [same, List.length_take] <;> omega

theorem read_accepted_take {q : Bytes} (accepted : Accepted d q) (n : Nat) :
    d.decoder.read () (q.take (declared d q + n)) =
      { d.decoder.read () ((q.drop (declared d q)).take n) with
        fired := .read (payload d q) :: (d.decoder.read () ((q.drop (declared d q)).take n)).fired } := by
  obtain ⟨front, same⟩ := sound.accepted_take accepted (Nat.le_add_right _ n)
  have rest : (q.take (declared d q + n)).drop (declared d q) = (q.drop (declared d q)).take n := by
    rw [List.drop_take, Nat.add_sub_cancel_left]
  have result : payload d (q.take (declared d q + n)) = payload d q := by
    rw [payload, same, List.take_take, Nat.min_eq_left (Nat.le_add_right _ n), payload]
  rw [read_success sound.progressive (sound.decode_accepted front), same, rest, result]

theorem cutAgrees_rest {q : Bytes} (accepted : Accepted d q) {n : Nat}
    (agrees : CutAgrees d q (declared d q + n)) : CutAgrees d (q.drop (declared d q)) n := by
  simpa only [CutAgrees, sound.read_accepted_take accepted, List.drop_drop, List.cons_append, List.cons.injEq,
    true_and, read_success sound.progressive (sound.decode_accepted accepted)] using agrees

theorem waits_of_cutAgrees {q : Bytes} {token : Taken Bytes} {n : Nat} {exact : Prop}
    (rejected : Rejected d q token n exact) (holds : exact) (agrees : CutAgrees d q n) : Waits d (q.drop n) := by
  have length : (q.take n).length = n := List.length_take_of_le rejected.le_length.2
  have front : Rejected d (q.take n) token n exact :=
    sound.rejected_of_append (by rwa [List.take_append_drop]) (Nat.le_of_eq length.symm)
  have whole := sound.decode_rejected rejected (.inr holds)
  have first := sound.decode_rejected front (.inr holds)
  rw [List.drop_of_length_le (Nat.le_of_eq length)] at first
  have quiet : (d.decoder.read () (q.drop n)).fired = [] ∧ (d.decoder.read () (q.drop n)).queue = q.drop n := by
    cases token with
    | frame message => exact rejected.stops.elim
    | failed what =>
        simp only [CutAgrees, read_insufficient (d := d.decoder) whole,
          read_insufficient (d := d.decoder) first, List.nil_append, List.self_eq_append_right] at agrees
        exact ⟨agrees.1, agrees.2.symm⟩
    | lost e =>
        simp only [CutAgrees, read_threw (d := d.decoder) whole, read_threw (d := d.decoder) first,
          List.nil_append] at agrees
        exact ⟨agrees.1.symm, agrees.2.symm⟩
  rcases sound.read_quiet quiet.1 with ⟨waits, -⟩ | ⟨lost, large⟩
  · exact waits
  · rw [← quiet.2, lost] at large
    simp at large

theorem not_cutAgrees {q : Bytes} {n : Nat} (fired : (d.decoder.read () (q.take n)).fired = (d.decoder.read () q).fired)
    (empty : (d.decoder.read () (q.take n)).queue = [])
    (one : (d.decoder.read () q).queue.length + 1 = (q.drop n).length) : ¬ CutAgrees d q n := by
  rintro ⟨same, left⟩
  simp only [empty, List.nil_append, fired, List.self_eq_append_right] at same left
  rcases sound.read_quiet same with ⟨-, kept⟩ | ⟨lost, large⟩
  · rw [left, kept] at one
    omega
  · rw [left, lost] at one
    simp only [List.length_nil] at one
    omega

theorem tooLarge_alone {q : Bytes} (enough : d.lengthFieldEndOffset.toNat ≤ q.length)
    (sized : d.lengthFieldEndOffset.toNat ≤ declared d q) (large : d.maxFrameLength.toNat < declared d q)
    (agrees : ∀ n, CutAgrees d q n) :
    q.length = d.lengthFieldEndOffset.toNat ∨ declared d q = d.lengthFieldEndOffset.toNat := by
  by_contra neither
  -- the cut is before the last byte that belongs to the frame
  obtain ⟨n, last⟩ : ∃ n, n + 1 = min (declared d q) q.length := ⟨min (declared d q) q.length - 1, by omega⟩
  have length : (q.take n).length = n := by rw [List.length_take]; omega
  have front : d.lengthFieldEndOffset.toNat ≤ (q.take n).length := by omega
  have same := sound.declared_take front
  have first := decode_tooLarge sound.width sound.offset front (by rwa [same]) (by rwa [same])
  rw [same, List.drop_of_length_le (by omega)] at first
  have whole := decode_tooLarge sound.width sound.offset enough sized large
  apply sound.not_cutAgrees _ _ _ (agrees n)
  · rw [read_insufficient (d := d.decoder) first, read_insufficient (d := d.decoder) whole]
  · rw [read_insufficient (d := d.decoder) first]
  · rw [read_insufficient (d := d.decoder) whole, List.length_drop, List.length_drop]
    omega

theorem truncated_alone {q : Bytes} (complete : Complete d q)
    (stripped : d.initialBytesToStrip.toNat ≤ declared d q)
    (excess : 2 ^ 31 ≤ declared d q - d.initialBytesToStrip.toNat) (agrees : ∀ n, CutAgrees d q n) :
    q.length = declared d q := by
  obtain ⟨enough, sized, within, complete⟩ := complete
  by_contra more
  -- the cut is before the last byte of all
  obtain ⟨n, last⟩ : ∃ n, n + 1 = q.length := ⟨q.length - 1, by omega⟩
  have length : (q.take n).length = n := by rw [List.length_take]; omega
  have front : d.lengthFieldEndOffset.toNat ≤ (q.take n).length := by omega
  have same := sound.declared_take front
  have first := decode_truncated sound.width sound.offset front (by rwa [same]) (by rwa [same])
    (by rw [same]; omega) (by rwa [same]) (by rwa [same])
  have whole := decode_truncated sound.width sound.offset enough sized within complete stripped excess
  apply sound.not_cutAgrees _ _ _ (agrees n)
  · rw [read_threw (d := d.decoder) first, read_threw (d := d.decoder) whole]
  · rw [read_threw (d := d.decoder) first]
  · rw [read_threw (d := d.decoder) whole, List.length_drop, List.length_nil]
    omega

theorem settled_of_cutAgrees {stream : Bytes} (agrees : ∀ n, CutAgrees d stream n) : Settled d stream := by
  induction stream using (frames sound).split_induction with
  | waits stream next => exact .waits (nextFrame_none_iff.mp next)
  | takes stream token rest next ih =>
      rcases nextFrame_some next with ⟨accepted, -, rfl⟩ | ⟨n, exact, rejected, rfl⟩
      · exact .frame accepted (ih fun n => sound.cutAgrees_rest accepted (agrees _))
      · have alone : stream.length = n ∨ exact := by
          cases rejected with
          | tooSmall enough small => exact .inr trivial
          | tooLarge enough sized large => exact sound.tooLarge_alone enough sized large agrees
          | overStripped complete excess => exact .inr trivial
          | truncated complete stripped excess => exact .inl (sound.truncated_alone complete stripped excess agrees)
        refine .rejected rejected alone ?_
        rcases alone with length | holds
        · rw [List.drop_of_length_le (Nat.le_of_eq length)]
          exact sound.waits_nil
        · exact sound.waits_of_cutAgrees rejected holds (agrees n)

end Sound

theorem chunkingIndependent_iff (width : Width d) (stream : Bytes) :
    ChunkingIndependent d stream ↔ 2 ^ 31 ≤ d.lengthFieldOffset.toNat ∨ Settled d stream := by
  constructor
  · intro independent
    by_cases offset : d.lengthFieldOffset.toNat < 2 ^ 31
    · have sound : Sound d := ⟨width, offset⟩
      exact .inr (sound.settled_of_cutAgrees independent.cutAgrees)
    · exact .inl (Nat.not_lt.mp offset)
  · intro condition chunks chunks' cut cut'
    by_cases offset : d.lengthFieldOffset.toNat < 2 ^ 31
    · have sound : Sound d := ⟨width, offset⟩
      have settled := condition.resolve_left (Nat.not_le.mpr offset)
      rw [sound.follows_frames.feedAll stream settled chunks cut,
        sound.follows_frames.feedAll stream settled chunks' cut']
      exact ⟨rfl, rfl⟩
    · obtain ⟨fired, queue⟩ := feedAll_negative (Nat.not_lt.mp offset) chunks
      obtain ⟨fired', queue'⟩ := feedAll_negative (Nat.not_lt.mp offset) chunks'
      exact ⟨fired.trans fired'.symm, by rw [queue, queue', cut, cut']⟩

theorem frame_and_header_independent : ChunkingIndependent {} [0, 0, 0, 1, 7, 0, 0] := by
  refine (chunkingIndependent_iff (by decide) _).mpr (.inr (.frame ?_ (.waits ?_)))
  · exact ⟨⟨by decide, by decide, by decide, by decide⟩, by decide, by decide⟩
  · exact .inl (by decide)

/-- The header announces 16 bytes where 6 are permitted. The bytes that follow are dropped with the header
when they are queued with it, and are decoded as a frame when they are not. -/
theorem oversized_frame_breaks_independence :
    ¬ ChunkingIndependent { maxFrameLength := 10 } [0, 0, 0, 16, 0, 0, 0, 1, 7] := by
  intro independent
  have same := independent [[0, 0, 0, 16, 0, 0, 0, 1, 7]] [[0, 0, 0, 16], [0, 0, 0, 1, 7]] rfl rfl
  revert same
  unfold SameDelivery
  decide

end Wangle.Proof.Codec
