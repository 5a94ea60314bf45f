import Wangle.Proof.Codec.Reading
import Wangle.Spec.Lines
import Mathlib.Data.List.Chain

namespace Wangle.Proof.Codec
open Wangle.Codec Wangle.Incremental Wangle.Spec LineBasedFrameDecoder

variable {d : LineBasedFrameDecoder}

/-- Every carriage return that is followed by a byte is followed by a newline. -/
def Paired (stream : Bytes) : Prop := stream.IsChain fun a b => a = carriageReturn → b = newline

/-! ## The scan for an end of line -/

@[simp]
theorem carriageReturn_ne_newline : carriageReturn ≠ newline := by decide

@[simp]
theorem newline_ne_carriageReturn : newline ≠ carriageReturn := by decide

theorem findEndOfLineFrom_found (kind : d.terminatorType ≠ .carriageNewline) (steps i : Nat) (c : Bytes) :
    d.findEndOfLineFrom (steps+1) i (newline :: c) = .ok (some i) := by
  simp [findEndOfLineFrom, Cursor.read, kind]

theorem findEndOfLineFrom_return (kind : d.terminatorType ≠ .newline) (steps i : Nat) (b : UInt8) (c : Bytes) :
    d.findEndOfLineFrom (steps+1) i (carriageReturn :: b :: c) =
      if b = newline then .ok (some i) else d.findEndOfLineFrom steps (i+1) c := by
  simp [findEndOfLineFrom, Cursor.read, Cursor.isAtEnd, kind]

theorem findEndOfLineFrom_other (steps i : Nat) {b : UInt8} {c : Bytes}
    (noNewline : b = newline → d.terminatorType = .carriageNewline)
    (noReturn : b = carriageReturn → d.terminatorType = .newline ∨ c = []) :
    d.findEndOfLineFrom (steps+1) i (b :: c) = d.findEndOfLineFrom steps (i+1) c := by
  rw [findEndOfLineFrom]
  simp only [Cursor.read]
  rw [if_neg fun found => found.2 (noNewline found.1), if_neg]
  rintro ⟨kind, isReturn, inside⟩
  rcases noReturn isReturn with only | rfl
  · exact kind only
  · cases inside

theorem findEndOfLineFrom_newline (kind : d.terminatorType = .newline) (steps i : Nat) (c : Bytes)
    (within : steps ≤ c.length) :
    d.findEndOfLineFrom steps i c =
      .ok ((cutLine .newline (c.take steps)).map fun cut => i + cut.1.content.length) := by
  induction steps generalizing i c with
  | zero => rfl
  | succ steps ih =>
      cases c with
      | nil => simp at within
      | cons b rest =>
          rw [List.take_succ_cons]
          by_cases isNewline : b = newline
          · subst isNewline
            rw [findEndOfLineFrom_found (by simp [kind]),
              cutLine_of_some (n := 1) (by simp [terminatorLength])]
            rfl
          · rw [findEndOfLineFrom_other _ _ (fun found => absurd found isNewline) (fun _ => .inl kind),
              cutLine_of_none (by simp [terminatorLength, isNewline]), ih (i+1) rest (by simpa using within)]
            simp [Function.comp_def, Nat.add_comm, Nat.add_left_comm]

theorem findEndOfLineFrom_paired (kind : d.terminatorType ≠ .newline) (i : Nat) (c : Bytes)
    (paired : Paired c) :
    d.findEndOfLineFrom c.length i c =
      .ok ((cutLine d.terminatorType c).map fun cut => i + cut.1.content.length) := by
  induction c generalizing i with
  | nil => rfl
  | cons b rest ih =>
      cases ends : terminatorLength d.terminatorType (b :: rest) with
      | some n =>
          rw [cutLine_of_some ends]
          rcases terminatorLength_cases ends with ⟨rest', equal, rfl, admits⟩ | ⟨rest', equal, rfl, -⟩
          · cases equal
            exact findEndOfLineFrom_found admits _ _ _
          · cases equal
            exact findEndOfLineFrom_return kind _ _ _ _
      | none =>
          have noNewline : b = newline → d.terminatorType = .carriageNewline := by
            rintro rfl
            by_contra admits
            simp [terminatorLength, admits] at ends
          have noReturn : b = carriageReturn → d.terminatorType = .newline ∨ rest = [] := by
            rintro rfl
            refine .inr ?_
            cases rest with
            | nil => rfl
            | cons next rest =>
                obtain rfl : next = newline := paired.rel rfl
                simp [terminatorLength, kind] at ends
          rw [cutLine_of_none ends, List.length_cons, findEndOfLineFrom_other _ _ noNewline noReturn,
            ih (i+1) paired.of_cons]
          simp [Function.comp_def, Nat.add_comm, Nat.add_left_comm]

theorem findEndOfLine_eq {q : Bytes} (safe : d.terminatorType = .newline ∨ Paired q)
    (short : q.length ≤ d.maxLength.toNat) :
    d.findEndOfLine q = .ok ((cutLine d.terminatorType q).map fun cut => cut.1.content.length) := by
  unfold findEndOfLine IOBufQueue.chainLength
  rw [Nat.min_eq_right short]
  by_cases kind : d.terminatorType = .newline
  · rw [findEndOfLineFrom_newline kind _ _ _ le_rfl, List.take_length, kind]
    simp
  · rw [findEndOfLineFrom_paired kind 0 q (safe.resolve_left kind)]
    simp

theorem paired_return {c : Bytes} (paired : Paired (carriageReturn :: c)) (more : c ≠ []) :
    ∃ rest, c = newline :: rest := by
  cases c with
  | nil => exact absurd rfl more
  | cons next rest => exact ⟨rest, by rw [show next = newline from paired.rel rfl]⟩

theorem findEndOfLineFrom_stray (kind : d.terminatorType ≠ .newline) (i : Nat) (c : Bytes)
    (b : UInt8) (stray : b ≠ newline) (quiet : cutLine d.terminatorType (c ++ [carriageReturn]) = none)
    (paired : Paired (c ++ [carriageReturn])) :
    d.findEndOfLineFrom (c.length + 2) i (c ++ [carriageReturn, b]) = .error .outOfRange := by
  induction c generalizing i with
  | nil =>
      -- the look-ahead has taken the byte behind, so the next iteration reads past the end
      rw [List.nil_append, List.length_nil, findEndOfLineFrom_return kind, if_neg stray]
      rfl
  | cons a rest ih =>
      rw [List.cons_append] at quiet paired ⊢
      cases ends : terminatorLength d.terminatorType (a :: (rest ++ [carriageReturn])) with
      | some n => rw [cutLine_of_some ends] at quiet; cases quiet
      | none =>
          rw [cutLine_of_none ends, Option.map_eq_none_iff] at quiet
          have noNewline : a = newline → d.terminatorType = .carriageNewline := by
            rintro rfl
            by_contra admits
            simp [terminatorLength, admits] at ends
          -- an earlier carriage return would be followed by a newline, and the line would end there
          have noReturn : a ≠ carriageReturn := by
            rintro rfl
            obtain ⟨rest', equal⟩ := paired_return paired (by simp)
            rw [equal] at ends
            simp [terminatorLength, kind] at ends
          rw [List.length_cons, findEndOfLineFrom_other _ _ noNewline (fun found => absurd found noReturn)]
          exact ih (i+1) quiet paired.of_cons

/-! ## One line -/

theorem delimLength_eq {t : TerminatorType} {q rest : Bytes} {line : Line}
    (cut : cutLine t q = some (line, rest)) :
    delimLength q line.content.length = .ok line.terminator.length := by
  obtain ⟨rfl, ⟨ends, -⟩ | ⟨ends, -⟩⟩ := cutLine_eq cut
  · simp [delimLength, Cursor.skip, Cursor.read, ends, newline, carriageReturn]
  · simp [delimLength, Cursor.skip, Cursor.read, ends]

theorem decodeLine_eq {t : TerminatorType} {s : State} {q rest : Bytes} {line : Line}
    (cut : cutLine t q = some (line, rest)) (fits : line.content.length ≤ d.maxLength.toNat) :
    d.decodeLine s q line.content.length = .success (line.frame d.stripDelimiter) s rest := by
  obtain ⟨rfl, -⟩ := cutLine_eq cut
  simp only [decodeLine, delimLength_eq cut, if_neg (Nat.not_lt.mpr fits)]
  cases strip : d.stripDelimiter with
  | true => simp [IOBufQueue.split, IOBufQueue.trimStart, Line.frame]
  | false =>
      simp [IOBufQueue.split, Line.frame, List.take_length_add_append]

theorem decode_line {s : State} {q rest : Bytes} {line : Line} (scanning : s.discarding = false)
    (found : d.findEndOfLine q = .ok (some line.content.length))
    (cut : cutLine d.terminatorType q = some (line, rest))
    (fits : line.content.length ≤ d.maxLength.toNat) :
    d.decode s q = .success (line.frame d.stripDelimiter) s rest := by
  simp only [decode, found, scanning, if_true]
  exact decodeLine_eq cut fits

theorem decode_unterminated {s : State} {q : Bytes} (scanning : s.discarding = false)
    (found : d.findEndOfLine q = .ok none) (short : q.length ≤ d.maxLength.toNat) :
    d.decode s q = .insufficient s q [] := by
  simp [decode, found, scanning, decodeUnterminated, IOBufQueue.chainLength, Nat.not_lt.mpr short]

/-! ## Whole streams -/

def lineFrames (d : LineBasedFrameDecoder) : Tokenizer UInt8 (Taken Bytes) :=
  (lines d.terminatorType).map fun line => .frame (line.frame d.stripDelimiter)

theorem lineFrames_next {q rest : Bytes} {token : Taken Bytes}
    (next : (lineFrames d).next q = some (token, rest)) :
    ∃ line, cutLine d.terminatorType q = some (line, rest) ∧ token = .frame (line.frame d.stripDelimiter) := by
  obtain ⟨⟨line, rest'⟩, cut, equal⟩ := Option.map_eq_some_iff.mp next
  cases equal
  exact ⟨line, cut, rfl⟩

theorem follows_lines : Follows d.decoder {} (lineFrames d)
    (fun q => q.length < d.maxLength.toNat ∧ (d.terminatorType = .newline ∨ Paired q)) where
  waits q good next := by
    have none : cutLine d.terminatorType q = none := Option.map_eq_none_iff.mp next
    have found := findEndOfLine_eq good.2 good.1.le
    rw [none] at found
    exact decode_unterminated rfl found good.1.le
  takes q token rest good next := by
    obtain ⟨line, cut, rfl⟩ := lineFrames_next next
    have found := findEndOfLine_eq good.2 good.1.le
    rw [cut] at found
    obtain ⟨front, -⟩ := cutLine_eq cut
    have fits : line.content.length ≤ d.maxLength.toNat := by
      have := good.1
      rw [front, List.length_append] at this
      omega
    exact decode_line rfl found cut fits
  stops q token rest good next stops := by
    obtain ⟨line, -, rfl⟩ := lineFrames_next next
    exact stops.elim
  taken q token rest good next := by
    obtain ⟨line, cut, -⟩ := lineFrames_next next
    obtain ⟨front, -⟩ := cutLine_eq cut
    refine ⟨(cutLine_shrinks cut).trans good.1, good.2.imp_right fun paired => ?_⟩
    rw [front] at paired
    exact (List.IsChain.right_of_append paired).right_of_append
  begins q more good := by
    refine ⟨?_, good.2.imp_right fun paired => List.IsChain.left_of_append paired⟩
    have := good.1
    rw [List.length_append] at this
    omega

/-- `read` never throws and ends, the frames are the complete lines in order, no read exception is
fired, and the queue holds the unterminated tail. -/
def DeliversLines (d : LineBasedFrameDecoder) (stream : Bytes) (r : Reading State Bytes) : Prop :=
  r.finished = true ∧ r.thrown = [] ∧
    r.fired = ((lines d.terminatorType).split stream).1.map
      (fun line => .read (line.frame d.stripDelimiter)) ∧
    r.queue = ((lines d.terminatorType).split stream).2

theorem feedAll_lines (stream : Bytes) (short : stream.length < d.maxLength.toNat)
    (safe : d.terminatorType = .newline ∨ Paired stream)
    (chunks : List Bytes) (cut : chunks.flatten = stream) :
    d.decoder.feedAll {} chunks = ⟨{}, ((lines d.terminatorType).split stream).2,
      ((lines d.terminatorType).split stream).1.map (fun line => .read (line.frame d.stripDelimiter)),
      [], true⟩ := by
  rw [follows_lines.feedAll stream ⟨short, safe⟩ chunks cut, lineFrames,
    (lines d.terminatorType).map_split]
  simpa [Function.comp_def] using outcome_frames ({} : State) (((lines d.terminatorType).split stream).1.map
    fun line => line.frame d.stripDelimiter) ((lines d.terminatorType).split stream).2

theorem exists_stray {stream : Bytes} (unpaired : ¬ Paired stream) :
    ∃ before b after, stream = before ++ carriageReturn :: b :: after ∧ b ≠ newline ∧
      Paired (before ++ [carriageReturn]) := by
  induction stream with
  | nil => exact absurd List.IsChain.nil unpaired
  | cons a rest ih =>
      cases rest with
      | nil => exact absurd (List.IsChain.singleton a) unpaired
      | cons b after =>
          by_cases pair : a = carriageReturn → b = newline
          · obtain ⟨before, b', after', equal, different, paired⟩ :=
              ih fun tail => unpaired (List.isChain_cons_cons.mpr ⟨pair, tail⟩)
            refine ⟨a :: before, b', after', by rw [equal]; rfl, different, ?_⟩
            refine List.IsChain.cons paired fun y head isReturn => ?_
            have first : (before ++ [carriageReturn]).head? = some b := by
              have := congrArg List.head? equal
              cases before <;> simpa using this.symm
            exact (Option.some.inj (first.symm.trans head)) ▸ pair isReturn
          · rw [Classical.not_imp] at pair
            obtain ⟨rfl, different⟩ := pair
            exact ⟨[], b, after, rfl, different, List.IsChain.singleton _⟩

theorem tail_return {t : TerminatorType} {stream : Bytes}
    (last : stream.getLast? = some carriageReturn) :
    ((lines t).split stream).2.getLast? = some carriageReturn := by
  induction stream using (lines t).split_induction with
  | waits stream waits => rwa [(lines t).split_of_none waits]
  | takes stream line rest cut ih =>
      rw [(lines t).split_of_some cut]
      apply ih
      obtain ⟨rfl, ends⟩ := cutLine_eq cut
      cases rest with
      | nil =>
          rw [List.append_nil, List.getLast?_append] at last
          rcases ends with ⟨ends, -⟩ | ⟨ends, -⟩ <;> simp [ends] at last
      | cons b rest =>
          rw [← List.append_assoc] at last
          simpa [List.getLast?_append] using last

theorem thrown_mono (s : State) (chunks more : List Bytes)
    (threw : (d.decoder.feedAll s chunks).thrown ≠ []) :
    (d.decoder.feedAll s (chunks ++ more)).thrown ≠ [] := by
  induction more using List.reverseRecOn with
  | nil => simpa using threw
  | append_singleton more chunk ih =>
      rw [← List.append_assoc, feedAll_concat]
      simp [ByteToMessageDecoder.feed, ih]

theorem feedAll_stray (kind : d.terminatorType ≠ .newline) (before : Bytes) (b : UInt8)
    (stray : b ≠ newline) (paired : Paired (before ++ [carriageReturn]))
    (short : before.length + 2 ≤ d.maxLength.toNat) :
    (d.decoder.feedAll {} [before ++ [carriageReturn], [b]]).thrown ≠ [] := by
  have first := feedAll_lines (d := d) (before ++ [carriageReturn]) (by simp; omega) (.inr paired)
    [before ++ [carriageReturn]] (by simp)
  have quiet := (lines d.terminatorType).next_split_tail (before ++ [carriageReturn])
  have last : (before ++ [carriageReturn]).getLast? = some carriageReturn := by simp
  obtain ⟨t, tail⟩ := List.getLast?_eq_some_iff.mp (tail_return (t := d.terminatorType) last)
  have goodTail := (follows_lines (d := d)).tail_append (before ++ [carriageReturn]) []
    ⟨by simp; omega, .inr (by simpa using paired)⟩
  rw [List.append_nil, lineFrames, (lines d.terminatorType).map_split, tail] at goodTail
  rw [tail] at quiet
  have length : (t ++ [carriageReturn] ++ [b]).length = t.length + 2 := by simp
  have scan : d.findEndOfLine (t ++ [carriageReturn] ++ [b]) = .error .outOfRange := by
    have goodLength := goodTail.1
    rw [List.length_append, List.length_singleton] at goodLength
    rw [findEndOfLine, IOBufQueue.chainLength, Nat.min_eq_right (by omega), length, List.append_assoc]
    exact findEndOfLineFrom_stray kind 0 t b stray quiet (goodTail.2.resolve_left kind)
  have threw : d.decoder.decode {} (t ++ [carriageReturn] ++ [b]) =
      .threw .outOfRange {} (t ++ [carriageReturn] ++ [b]) := by
    simp only [decoder, decode, scan]
  rw [show [before ++ [carriageReturn], [b]] = [before ++ [carriageReturn]] ++ [[b]] from rfl,
    feedAll_concat, first, tail]
  simp only [ByteToMessageDecoder.feed, read_threw threw]
  simp

/-- The decoder delivers the lines of a stream under every cutting exactly when it need not look
behind a carriage return in vain: only newlines end lines, or no carriage return is followed by
another byte than a newline. -/
theorem feedAll_deliversLines_iff (d : LineBasedFrameDecoder) (stream : Bytes)
    (short : stream.length < d.maxLength.toNat) :
    (∀ chunks : List Bytes, chunks.flatten = stream →
      DeliversLines d stream (d.decoder.feedAll {} chunks)) ↔
    d.terminatorType = .newline ∨ Paired stream := by
  constructor
  · intro delivers
    by_contra neither
    rw [not_or] at neither
    obtain ⟨before, b, after, rfl, stray, paired⟩ := exists_stray neither.2
    have threw := feedAll_stray neither.1 before b stray paired (by simp at short; omega)
    exact thrown_mono {} _ [after] threw
      (delivers ([before ++ [carriageReturn], [b]] ++ [after]) (by simp)).2.1
  · intro safe chunks cut
    rw [feedAll_lines stream short safe chunks cut]
    exact ⟨rfl, rfl, rfl, rfl⟩

theorem feedAll_deliversLines_iff_hello :
    (([104, 105, 13, 10, 104] : Bytes).length < ({} : LineBasedFrameDecoder).maxLength.toNat) ∧
    ((∀ chunks : List Bytes, chunks.flatten = [104, 105, 13, 10, 104] →
      DeliversLines {} [104, 105, 13, 10, 104] (({} : LineBasedFrameDecoder).decoder.feedAll {} chunks)) ↔
    ({} : LineBasedFrameDecoder).terminatorType = .newline ∨ Paired [104, 105, 13, 10, 104]) :=
  ⟨by decide, feedAll_deliversLines_iff {} [104, 105, 13, 10, 104] (by decide)⟩

theorem stray_return_breaks_lines :
    ¬ ∀ chunks : List Bytes, chunks.flatten = [13, 88, 10] →
      DeliversLines { maxLength := 10 } [13, 88, 10]
        (({ maxLength := 10 } : LineBasedFrameDecoder).decoder.feedAll {} chunks) := by
  intro delivers
  have fired := (delivers [[13, 88, 10]] rfl).2.2.1
  revert fired
  decide

end Wangle.Proof.Codec
