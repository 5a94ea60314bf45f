import Wangle.Proof.Codec.LineTerminators
import Mathlib.Data.List.TakeWhile

/-!
# The length limit of `LineBasedFrameDecoder`

`findEndOfLine` looks at `maxLength` bytes only, so a line of that length or longer is never seen to
end: everything that is queued then is discarded (`read_long`).
-/

namespace Wangle.Proof.Codec
open Wangle.Codec Wangle.Incremental Wangle.Spec LineBasedFrameDecoder

variable {d : LineBasedFrameDecoder}

theorem delimLength_pos {q : Bytes} {eol n : Nat} (length : delimLength q eol = .ok n) : 0 < n := by
  unfold delimLength at length
  split at length
  · cases length
  · split at length
    · cases length
    · obtain rfl := Except.ok.inj length
      split <;> decide

theorem split_length {n : Nat} {q front rest : Bytes} (done : IOBufQueue.split n q = .ok (front, rest)) :
    rest.length + n = q.length := by
  unfold IOBufQueue.split at done
  split at done
  · cases done
    simp
    omega
  · cases done

theorem trimStart_length {n : Nat} {q rest : Bytes} (done : IOBufQueue.trimStart n q = .ok rest) :
    rest.length + n = q.length := by
  unfold IOBufQueue.trimStart at done
  split at done
  · cases done
    simp
    omega
  · cases done

theorem decodeLine_shrinks {s s' : State} {q q' result : Bytes} {eol : Nat}
    (decoded : d.decodeLine s q eol = .success result s' q') : q'.length < q.length := by
  unfold decodeLine at decoded
  split at decoded
  · cases decoded
  · rename_i n length
    have positive := delimLength_pos length
    split at decoded
    · split at decoded <;> cases decoded
    · split at decoded
      · split at decoded
        · cases decoded
        · rename_i frame rest done
          have := split_length done
          split at decoded
          · cases decoded
          · rename_i rest' done'
            have := trimStart_length done'
            cases decoded
            omega
      · split at decoded
        · cases decoded
        · rename_i frame rest done
          have := split_length done
          cases decoded
          omega

theorem lineBased_progressive (d : LineBasedFrameDecoder) : Progressive d.decoder := by
  intro s q result s' q' decoded
  change d.decode s q = _ at decoded
  unfold decode at decoded
  cases found : d.findEndOfLine q with
  | error e => simp [found] at decoded
  | ok eol =>
      cases scanning : s.discarding with
      | true =>
          simp only [found, scanning, Bool.true_eq_false, if_false] at decoded
          unfold decodeDiscarding at decoded
          repeat' split at decoded
          all_goals cases decoded
      | false =>
          simp only [found, scanning, if_true] at decoded
          cases eol with
          | none =>
              simp only [decodeUnterminated] at decoded
              split at decoded <;> cases decoded
          | some eol => exact decodeLine_shrinks decoded

/-! ## One `read` outside the discarding mode -/

theorem findEndOfLine_newline (kind : d.terminatorType = .newline) (q : Bytes) :
    d.findEndOfLine q =
      .ok ((cutLine .newline (q.take d.maxLength.toNat)).map fun cut => cut.1.content.length) := by
  have scan := findEndOfLineFrom_newline kind (min d.maxLength.toNat q.length) 0 q (Nat.min_le_right _ _)
  rw [← List.take_eq_take_min] at scan
  simpa [findEndOfLine, IOBufQueue.chainLength] using scan

theorem cutLine_newline {q rest : Bytes} {line : Line} (cut : cutLine .newline q = some (line, rest)) :
    line.terminator = [newline] ∧ q = line.content ++ newline :: rest := by
  obtain ⟨front, ⟨ends, -⟩ | ⟨-, kind⟩⟩ := cutLine_eq cut
  · exact ⟨ends, by rw [front, ends]; rfl⟩
  · exact absurd rfl kind

theorem findEndOfLine_short (kind : d.terminatorType = .newline) {q rest : Bytes} {line : Line}
    (cut : cutLine .newline q = some (line, rest)) (short : line.content.length < d.maxLength.toNat) :
    d.findEndOfLine q = .ok (some line.content.length) := by
  have inside : line.content.length + line.terminator.length ≤ d.maxLength.toNat := by
    rw [(cutLine_newline cut).1]
    exact short
  rw [findEndOfLine_newline kind, cutLine_take cut inside]
  rfl

theorem findEndOfLine_long (kind : d.terminatorType = .newline) {q : Bytes}
    (long : ∀ line rest, cutLine .newline q = some (line, rest) → d.maxLength.toNat ≤ line.content.length) :
    d.findEndOfLine q = .ok none := by
  rw [findEndOfLine_newline kind]
  cases cut : cutLine .newline (q.take d.maxLength.toNat) with
  | none => rfl
  | some pair =>
      obtain ⟨line, rest⟩ := pair
      have whole := cutLine_append (q.drop d.maxLength.toNat) cut
      rw [List.take_append_drop] at whole
      have bound := congrArg List.length (cutLine_newline cut).2
      have := long line _ whole
      simp at bound
      omega

theorem decode_long (kind : d.terminatorType = .newline) {s : State} (scanning : s.discarding = false)
    {q : Bytes} (excess : d.maxLength.toNat < q.length)
    (long : ∀ line rest, cutLine .newline q = some (line, rest) → d.maxLength.toNat ≤ line.content.length) :
    d.decode s q = .insufficient ⟨true, UInt32.ofNat q.length⟩ []
      [d.fail ("over " ++ toString q.length)] := by
  simp [decode, findEndOfLine_long kind long, scanning, decodeUnterminated, IOBufQueue.chainLength, excess]

def short (d : LineBasedFrameDecoder) (line : Line) : Bool :=
  decide (line.content.length < d.maxLength.toNat)

def delivered (d : LineBasedFrameDecoder) (found : List Line) : List (Event Bytes) :=
  found.map fun line => .read (line.frame d.stripDelimiter)

theorem read_short (kind : d.terminatorType = .newline) {s : State} (scanning : s.discarding = false)
    (q : Bytes) (lines_short : ∀ line ∈ ((lines .newline).split q).1, short d line = true)
    (tail_short : ((lines .newline).split q).2.length ≤ d.maxLength.toNat) :
    d.decoder.read s q = ⟨s, ((lines .newline).split q).2, delivered d ((lines .newline).split q).1, [], true⟩ := by
  induction q using (lines .newline).split_induction with
  | waits q next =>
      rw [(lines .newline).split_of_none next] at tail_short ⊢
      have found : d.findEndOfLine q = .ok none :=
        findEndOfLine_long kind fun line rest cut => by cases next.symm.trans cut
      exact read_insufficient (decode_unterminated scanning found tail_short)
  | takes q line rest cut ih =>
      rw [(lines .newline).split_of_some cut] at lines_short tail_short ⊢
      have first : line.content.length < d.maxLength.toNat := by
        simpa [short] using lines_short line (by simp)
      rw [read_success (lineBased_progressive d) (decode_line scanning (findEndOfLine_short kind cut first)
        (kind ▸ cut) first.le), ih (fun line member => lines_short line (by simp [member])) tail_short]
      rfl

theorem read_long (kind : d.terminatorType = .newline) {s : State} (scanning : s.discarding = false)
    (q : Bytes) (long : (∃ line ∈ ((lines .newline).split q).1, short d line = false) ∨
      d.maxLength.toNat < ((lines .newline).split q).2.length) :
    ∃ n what, d.decoder.read s q = ⟨⟨true, n⟩, [],
      delivered d (((lines .newline).split q).1.takeWhile (short d)) ++ [.readException what], [], true⟩ := by
  induction q using (lines .newline).split_induction with
  | waits q next =>
      rw [(lines .newline).split_of_none next] at long ⊢
      have excess : d.maxLength.toNat < q.length := by simpa using long
      exact ⟨_, _, read_insufficient (decode_long kind scanning excess
        fun line rest cut => by cases next.symm.trans cut)⟩
  | takes q line rest cut ih =>
      rw [(lines .newline).split_of_some cut] at long ⊢
      by_cases first : short d line = true
      · obtain ⟨n, what, reading⟩ := ih (by simpa [first] using long)
        have fits : line.content.length < d.maxLength.toNat := by simpa [short] using first
        refine ⟨n, what, ?_⟩
        rw [read_success (lineBased_progressive d) (decode_line scanning (findEndOfLine_short kind cut fits)
          (kind ▸ cut) fits.le), reading, List.takeWhile_cons_of_pos first]
        rfl
      · have excess : d.maxLength.toNat ≤ line.content.length := by simpa [short] using first
        have size : line.content.length < q.length := by
          rw [(cutLine_newline cut).2]
          simp
        rw [List.takeWhile_cons_of_neg first]
        refine ⟨_, _, read_insufficient (decode_long kind scanning (by omega) fun line' rest' cut' => ?_)⟩
        cases cut.symm.trans cut'
        exact excess

/-! ## Whole streams -/

def isException : Event Bytes → Bool
  | .read _ => false
  | .readException _ => true

/-- Every complete line of content length at most `maxLength` is delivered once and in order, every
longer line (the tail included) is reported once, and a tail within the limit stays queued. -/
def MeetsLimit (d : LineBasedFrameDecoder) (stream : Bytes) (r : Reading State Bytes) : Prop :=
  r.finished = true ∧
  r.fired.filterMap Event.message? =
    (((lines .newline).split stream).1.filter (fun line => line.content.length ≤ d.maxLength.toNat)).map
      (fun line => line.frame d.stripDelimiter) ∧
  r.fired.countP isException =
    ((lines .newline).split stream).1.countP (fun line => d.maxLength.toNat < line.content.length) +
      (if d.maxLength.toNat < ((lines .newline).split stream).2.length then 1 else 0) ∧
  (((lines .newline).split stream).2.length ≤ d.maxLength.toNat →
    r.queue = ((lines .newline).split stream).2)

/-- Every complete line is shorter than `maxLength`, but for a longer one that ends the stream. -/
def Limited (d : LineBasedFrameDecoder) (stream : Bytes) : Prop :=
  ∀ before line after, ((lines .newline).split stream).1 = before ++ line :: after →
    line.content.length < d.maxLength.toNat ∨
      (d.maxLength.toNat < line.content.length ∧ after = [] ∧ ((lines .newline).split stream).2 = [])

theorem Limited.begins {stream more : Bytes} (limited : Limited d (stream ++ more)) : Limited d stream := by
  intro before line after split
  have whole := (lines .newline).split_append stream more
  rcases limited before line (after ++ ((lines .newline).split (((lines .newline).split stream).2 ++ more)).1)
    (by rw [whole, split]; simp) with short | ⟨long, last, tail⟩
  · exact .inl short
  · obtain ⟨rfl, quiet⟩ := List.append_eq_nil_iff.mp last
    rw [whole, (lines .newline).split_tail_of_no_token quiet] at tail
    exact .inr ⟨long, rfl, (List.append_eq_nil_iff.mp tail).1⟩

inductive Supplied (d : LineBasedFrameDecoder) (found : List Line) (tail : Bytes) : Reading State Bytes → Prop
  | scanning {s : State} (lines_short : ∀ line ∈ found, short d line = true)
      (within : tail.length ≤ d.maxLength.toNat) (mode : s.discarding = false) :
      Supplied d found tail ⟨s, tail, delivered d found, [], true⟩
  | skipping {s : State} {what : String} (lines_short : ∀ line ∈ found, short d line = true)
      (excess : d.maxLength.toNat < tail.length) (mode : s.discarding = true) :
      Supplied d found tail ⟨s, [], delivered d found ++ [.readException what], [], true⟩
  | skipped {s : State} {what : String} {before : List Line} {line : Line}
      (lines_short : ∀ line ∈ before, short d line = true) (found_eq : found = before ++ [line])
      (excess : d.maxLength.toNat < line.content.length) (tail_eq : tail = []) :
      Supplied d found tail ⟨s, [], delivered d before ++ [.readException what], [], true⟩

theorem delivered_append (found more : List Line) :
    delivered d (found ++ more) = delivered d found ++ delivered d more := List.map_append

theorem delivered_messages (found : List Line) :
    (delivered d found).filterMap Event.message? = found.map fun line => line.frame d.stripDelimiter := by
  simp [delivered, List.filterMap_map, Function.comp_def, Event.message?, List.filterMap_eq_map']

theorem delivered_exceptions (found : List Line) : (delivered d found).countP isException = 0 := by
  rw [List.countP_eq_zero]
  simp [delivered, isException]

theorem short_within {found : List Line} (lines_short : ∀ line ∈ found, short d line = true) :
    found.filter (fun line => line.content.length ≤ d.maxLength.toNat) = found ∧
      found.countP (fun line => d.maxLength.toNat < line.content.length) = 0 := by
  have bound : ∀ line ∈ found, line.content.length < d.maxLength.toNat :=
    fun line member => by simpa [short] using lines_short line member
  refine ⟨List.filter_eq_self.mpr fun line member => ?_, List.countP_eq_zero.mpr fun line member => ?_⟩
  · simpa using (bound line member).le
  · simpa using (bound line member).le

theorem Supplied.meetsLimit {stream : Bytes} {r : Reading State Bytes}
    (supplied : Supplied d ((lines .newline).split stream).1 ((lines .newline).split stream).2 r) :
    MeetsLimit d stream r := by
  unfold MeetsLimit
  generalize ((lines .newline).split stream).1 = found at supplied ⊢
  generalize ((lines .newline).split stream).2 = tail at supplied ⊢
  cases supplied with
  | scanning lines_short within mode =>
      obtain ⟨kept, none⟩ := short_within lines_short
      refine ⟨rfl, ?_, ?_, fun _ => rfl⟩
      · rw [delivered_messages, kept]
      · rw [delivered_exceptions, none, if_neg (Nat.not_lt.mpr within)]
  | skipping lines_short excess mode =>
      obtain ⟨kept, none⟩ := short_within lines_short
      refine ⟨rfl, ?_, ?_, fun within => absurd within (Nat.not_le.mpr excess)⟩
      · simp [delivered_messages, kept, Event.message?]
      · simp [delivered_exceptions, none, excess, isException]
  | @skipped s what before line lines_short found_eq excess tail_eq =>
      obtain ⟨kept, none⟩ := short_within lines_short
      subst found_eq tail_eq
      refine ⟨rfl, ?_, ?_, fun _ => rfl⟩
      · simp [delivered_messages, List.filter_append, kept, Event.message?, excess]
      · simp [delivered_exceptions, List.countP_append, none, excess, isException]

theorem cutLine_newline_append {front : Bytes} (quiet : cutLine .newline front = none) (more : Bytes) :
    cutLine .newline (front ++ more) =
      (cutLine .newline more).map fun cut => (⟨front ++ cut.1.content, cut.1.terminator⟩, cut.2) := by
  induction front with
  | nil => simp
  | cons b front ih =>
      have other : b ≠ newline := by
        rintro rfl
        rw [cutLine_of_some (n := 1) (by simp [terminatorLength])] at quiet
        cases quiet
      rw [cutLine_of_none (by simp [terminatorLength, other]), Option.map_eq_none_iff] at quiet
      rw [List.cons_append, cutLine_of_none (by simp [terminatorLength, other]), ih quiet, Option.map_map]
      rfl

theorem decode_skipping (kind : d.terminatorType = .newline) {s : State} (mode : s.discarding = true)
    (chunk : Bytes) (last : ∀ line rest, cutLine .newline chunk = some (line, rest) → rest = []) :
    ∃ s', d.decode s chunk = .insufficient s' [] [] ∧
      (cutLine .newline chunk = none → s'.discarding = true) := by
  simp only [decode, mode, findEndOfLine_newline kind, Bool.true_eq_false, if_false]
  cases cut : cutLine .newline (chunk.take d.maxLength.toNat) with
  | none => exact ⟨_, rfl, fun _ => mode⟩
  | some pair =>
      obtain ⟨line, rest⟩ := pair
      have whole := cutLine_append (chunk.drop d.maxLength.toNat) cut
      rw [List.take_append_drop] at whole
      obtain ⟨ends, equal⟩ := cutLine_newline whole
      have size : line.content.length + line.terminator.length = chunk.length := by
        rw [equal, ends, last _ _ whole]
        simp
      refine ⟨⟨false, 0⟩, ?_, fun none => by cases none.symm.trans whole⟩
      simp [decodeDiscarding, delimLength_eq whole, IOBufQueue.trimStart, size]

theorem exists_first_long {found : List Line} (long : ∃ line ∈ found, short d line = false) :
    ∃ line after, found = found.takeWhile (short d) ++ line :: after ∧ short d line = false := by
  obtain ⟨long, member, isLong⟩ := long
  have shape := List.takeWhile_append_dropWhile (p := short d) (l := found)
  cases rest : found.dropWhile (short d) with
  | nil => exact absurd (List.dropWhile_eq_nil_iff.mp rest long member) (by simp [isLong])
  | cons line after =>
      refine ⟨line, after, by rw [← rest, shape], ?_⟩
      have := List.head?_dropWhile_not (short d) found
      simpa [rest] using this

theorem Supplied.feed_scanning (kind : d.terminatorType = .newline) {found : List Line} {q : Bytes} {s : State}
    (mode : s.discarding = false) (lines_short : ∀ line ∈ found, short d line = true)
    (limited : ∀ before line after, found ++ ((lines .newline).split q).1 = before ++ line :: after →
      line.content.length < d.maxLength.toNat ∨
        (d.maxLength.toNat < line.content.length ∧ after = [] ∧ ((lines .newline).split q).2 = [])) :
    Supplied d (found ++ ((lines .newline).split q).1) ((lines .newline).split q).2
      { d.decoder.read s q with fired := delivered d found ++ (d.decoder.read s q).fired } := by
  by_cases all_short : ∀ line ∈ ((lines .newline).split q).1, short d line = true
  · have both : ∀ line ∈ found ++ ((lines .newline).split q).1, short d line = true := by
      intro line member
      exact (List.mem_append.mp member).elim (lines_short line) (all_short line)
    by_cases within : ((lines .newline).split q).2.length ≤ d.maxLength.toNat
    · rw [read_short kind mode q all_short within, ← delivered_append]
      exact .scanning both within mode
    · obtain ⟨n, what, reading⟩ := read_long kind mode q (.inr (Nat.lt_of_not_le within))
      rw [reading, ← List.append_assoc, List.takeWhile_eq_self_iff.mpr all_short, ← delivered_append]
      exact .skipping both (Nat.lt_of_not_le within) rfl
  · simp only [not_forall, Bool.not_eq_true] at all_short
    obtain ⟨long, member, isLong⟩ := all_short
    obtain ⟨n, what, reading⟩ := read_long kind mode q (.inl ⟨long, member, isLong⟩)
    -- the first line that is not short is the last one
    obtain ⟨line, after, shape, notShort⟩ := exists_first_long ⟨long, member, isLong⟩
    rcases limited (found ++ ((lines .newline).split q).1.takeWhile (short d)) line after
      (by rw [List.append_assoc, ← shape]) with isShort | ⟨excess, rfl, tail⟩
    · simp [short, isShort] at notShort
    · rw [reading, ← List.append_assoc, ← delivered_append]
      refine .skipped ?_ (by rw [List.append_assoc, ← shape]) excess tail
      intro line' member'
      exact (List.mem_append.mp member').elim (lines_short line') (fun found => List.mem_takeWhile_imp found)

theorem Supplied.feed (kind : d.terminatorType = .newline) {before chunk : Bytes} {r : Reading State Bytes}
    (limited : Limited d (before ++ chunk))
    (supplied : Supplied d ((lines .newline).split before).1 ((lines .newline).split before).2 r) :
    Supplied d ((lines .newline).split (before ++ chunk)).1 ((lines .newline).split (before ++ chunk)).2
      (d.decoder.feed r chunk) := by
  have whole := (lines .newline).split_append before chunk
  have quiet := (lines .newline).next_split_tail before
  unfold Limited at limited
  rw [whole] at limited ⊢
  generalize ((lines .newline).split before).1 = found at supplied limited ⊢
  generalize ((lines .newline).split before).2 = tail at supplied limited quiet ⊢
  cases supplied with
  | @scanning s lines_short within mode => exact Supplied.feed_scanning kind mode lines_short limited
  | @skipping s what lines_short excess mode =>
      have joined := cutLine_newline_append quiet chunk
      -- a newline in the chunk ends the overlong line, so it ends the stream
      have last : ∀ line rest, cutLine .newline chunk = some (line, rest) →
          (lines .newline).split rest = ([], []) := by
        intro line rest cut
        rw [cut] at joined
        have split := (lines .newline).split_of_some joined
        rcases limited found ⟨tail ++ line.content, line.terminator⟩ ((lines .newline).split rest).1
          (by rw [split]) with short | ⟨-, none, empty⟩
        · simp at short
          omega
        · rw [split] at empty
          exact Prod.ext none empty
      obtain ⟨s', decoded, mode'⟩ := decode_skipping kind mode chunk fun line rest cut => by
        have := (lines .newline).split_tail_of_no_token (congrArg Prod.fst (last line rest cut))
        exact congrArg Prod.snd (this.symm.trans (last line rest cut))
      simp only [ByteToMessageDecoder.feed, List.nil_append, read_insufficient (d := d.decoder) decoded,
        List.append_nil, Bool.and_self]
      cases cut : cutLine .newline chunk with
      | none =>
          rw [(lines .newline).split_of_none (joined.trans (by rw [cut]; rfl)), List.append_nil]
          exact .skipping lines_short (by simp; omega) (mode' cut)
      | some pair =>
          rw [cut] at joined
          rw [(lines .newline).split_of_some joined, last pair.1 pair.2 cut]
          exact .skipped lines_short rfl (by simp; omega) rfl
  | @skipped s what earlier line lines_short found_eq excess tail_eq =>
      subst found_eq tail_eq
      rcases limited earlier line ((lines .newline).split chunk).1 (by simp) with short | ⟨-, noLine, empty⟩
      · omega
      · rw [List.nil_append] at empty
        have nothing := (lines .newline).split_tail_of_no_token noLine
        rw [nothing] at empty
        subst empty
        have idle : ∃ s', d.decode s [] = .insufficient s' [] [] := by
          cases mode : s.discarding with
          | true =>
              obtain ⟨s', decoded, -⟩ := decode_skipping kind mode [] fun line rest cut => by cases cut
              exact ⟨s', decoded⟩
          | false =>
              have found : d.findEndOfLine [] = .ok none := findEndOfLine_long kind fun line rest cut => by cases cut
              exact ⟨s, decode_unterminated mode found (Nat.zero_le _)⟩
        obtain ⟨s', decoded⟩ := idle
        simp only [ByteToMessageDecoder.feed, List.append_nil, read_insufficient (d := d.decoder) decoded,
          Bool.and_self, nothing]
        exact .skipped lines_short rfl excess rfl

theorem feedAll_supplied (kind : d.terminatorType = .newline) (stream : Bytes) (limited : Limited d stream)
    (chunks : List Bytes) (cut : chunks.flatten = stream) :
    Supplied d ((lines .newline).split stream).1 ((lines .newline).split stream).2
      (d.decoder.feedAll {} chunks) := by
  apply feedAll_induction (P := fun before r => Supplied d ((lines .newline).split before).1
    ((lines .newline).split before).2 r) stream _ _ chunks cut
  · rw [(lines .newline).split_nil]
    exact .scanning (by simp) (Nat.zero_le _) rfl
  · rintro before r chunk ⟨more, begins⟩ supplied
    exact supplied.feed kind (Limited.begins (begins ▸ limited))

theorem limited_of_meetsLimit (kind : d.terminatorType = .newline) (stream : Bytes)
    (meets : MeetsLimit d stream (d.decoder.feedAll {} [stream])) : Limited d stream := by
  by_cases long : ∃ line ∈ ((lines .newline).split stream).1, short d line = false
  · obtain ⟨n, what, reading⟩ := read_long kind (s := {}) rfl stream (.inl long)
    obtain ⟨line, after, shape, isLong⟩ := exists_first_long long
    have all_short : ∀ line ∈ ((lines .newline).split stream).1.takeWhile (short d), short d line = true :=
      fun _ member => List.mem_takeWhile_imp member
    obtain ⟨kept, none⟩ := short_within all_short
    obtain ⟨-, frames, exceptions, queue⟩ := meets
    simp only [ByteToMessageDecoder.feedAll, List.foldl_cons, List.foldl_nil, ByteToMessageDecoder.feed,
      List.nil_append, reading] at frames exceptions queue
    unfold Limited
    generalize ((lines .newline).split stream).2 = tail at exceptions queue ⊢
    generalize ((lines .newline).split stream).1.takeWhile (short d) = shorts at *
    rw [shape] at frames exceptions ⊢
    simp only [List.filterMap_append, delivered_messages, List.filter_append, kept, List.map_append,
      List.filterMap_cons, List.filterMap_nil, Event.message?] at frames
    simp only [List.countP_append, delivered_exceptions, none, List.countP_cons, List.countP_nil,
      isException] at exceptions
    -- no frame is missing, so the lines from the first long one on are all over the limit
    have dropped : (line :: after).filter (fun line => line.content.length ≤ d.maxLength.toNat) = [] := by
      have := congrArg List.length frames
      simpa using this
    have excess : d.maxLength.toNat < line.content.length := by
      simpa using List.filter_eq_nil_iff.mp dropped line (by simp)
    have excess' : after.countP (fun line => d.maxLength.toNat < line.content.length) = after.length := by
      refine List.countP_eq_length.mpr fun line' member => ?_
      simpa using List.filter_eq_nil_iff.mp dropped line' (by simp [member])
    simp only [excess', excess, decide_true, if_true] at exceptions
    obtain rfl : after = [] := List.eq_nil_of_length_eq_zero (by omega)
    have within : ¬ d.maxLength.toNat < tail.length := fun outside => by simp [outside] at exceptions
    have empty := queue (Nat.le_of_not_lt within)
    intro before line' after' split
    cases after' using List.reverseRecOn with
    | nil =>
        obtain ⟨-, same⟩ := List.append_inj' split rfl
        obtain ⟨rfl, -⟩ := List.cons.inj same
        exact .inr ⟨excess, rfl, empty.symm⟩
    | append_singleton after' last =>
        rw [← List.cons_append, ← List.append_assoc] at split
        obtain ⟨same, -⟩ := List.append_inj' split rfl
        exact .inl (by simpa [short] using all_short line' (by rw [same]; simp))
  · intro before line after split
    refine .inl ?_
    by_contra isLong
    exact long ⟨line, by rw [split]; simp, by simpa [short] using isLong⟩

/-- With newlines as the only terminators, the limit is met under every cutting exactly when every
complete line is shorter than `maxLength`, but for a longer one that ends the stream. -/
theorem feedAll_meetsLimit_iff (d : LineBasedFrameDecoder) (kind : d.terminatorType = .newline)
    (stream : Bytes) :
    (∀ chunks : List Bytes, chunks.flatten = stream → MeetsLimit d stream (d.decoder.feedAll {} chunks)) ↔
      Limited d stream := by
  constructor
  · intro meets
    exact limited_of_meetsLimit kind stream (meets [stream] (by simp))
  · intro limited chunks cut
    exact (feedAll_supplied kind stream limited chunks cut).meetsLimit

theorem feedAll_meetsLimit_iff_default :
    (⟨0xFFFFFFFF, true, .newline⟩ : LineBasedFrameDecoder).terminatorType = .newline ∧
    ((∀ chunks : List Bytes, chunks.flatten = [104, 105, 10] →
      MeetsLimit ⟨0xFFFFFFFF, true, .newline⟩ [104, 105, 10]
        ((⟨0xFFFFFFFF, true, .newline⟩ : LineBasedFrameDecoder).decoder.feedAll {} chunks)) ↔
      Limited ⟨0xFFFFFFFF, true, .newline⟩ [104, 105, 10]) :=
  ⟨rfl, feedAll_meetsLimit_iff ⟨0xFFFFFFFF, true, .newline⟩ rfl [104, 105, 10]⟩

theorem line_of_maxLength_breaks_limit :
    ¬ ∀ chunks : List Bytes, chunks.flatten = [104, 105, 10] →
      MeetsLimit ⟨2, true, .newline⟩ [104, 105, 10]
        ((⟨2, true, .newline⟩ : LineBasedFrameDecoder).decoder.feedAll {} chunks) := by
  intro meets
  have frames := (meets [[104, 105, 10]] rfl).2.1
  revert frames
  decide

end Wangle.Proof.Codec
