import Wangle.Proof.Channel.FileTransfer
import Wangle.Transition.Progress

/-!
# A file that is shorter than what is to be transferred

A `splice` that finds nothing in the file neither fails the request nor ends the reading. As long as the kernel reports
no error, every transfer can go on until it is complete or the file is exhausted, and in the second case it stays there.
-/

namespace Wangle.Proof.Channel
open Wangle.Channel
open Wangle.Transition hiding run

variable {file : List UInt8} {offset count : Nat} {s : Transfer}

structure Reading (offset count : Nat) (s : Transfer) : Prop where
  registered : ∀ handler, s.request.readHandler = some handler → handler.registered = false → handler.bytesToRead = 0
  handled : s.reader ≠ .outside → s.request.readHandler ≠ none
  -- `offset_` is ahead of `bytesToRead_` by what the thread has spliced and not subtracted
  position : s.request.offset + remaining s = offset + count + uncounted s.reader

theorem transferTo_reading : Reading offset count (Transfer.transferTo file offset count) where
  registered := nofun
  handled inside := absurd rfl inside
  position := rfl

theorem performWrite_reading (holds : Reading offset count s) (spliced : Option Nat) :
    Yields (· = .underflow) (Reading offset count) (s.performWrite spliced) := by
  unfold Transfer.performWrite
  split
  · simp [Yields]
  · dsimp only
    split
    · exact { holds with }
    · cases spliced with
      | none => exact { holds with }
      | some bytes =>
          dsimp only
          split
          · exact { holds with }
          · simp [Yields]

theorem startReading_reading (holds : Reading offset count s) :
    Yields (· = .underflow) (Reading offset count) s.startReading := by
  unfold Transfer.startReading
  split
  · rename_i starts
    have position := holds.position
    rw [show remaining s = s.request.count by simp [remaining, starts.2.1]] at position
    refine ⟨?_, fun _ => Option.some_ne_none _, position⟩
    rintro handler ⟨⟩ unregistered
    cases unregistered
  · simp [Yields]

theorem handlerReady_reading (holds : Reading offset count s) (spliced : Option Nat) :
    Yields (· = .underflow) (Reading offset count) (s.handlerReady spliced) := by
  unfold Transfer.handlerReady
  split
  · simp [Yields]
  · simp [Yields]
  · simp [Yields]
  · rename_i handler present outside
    have position := holds.position
    rw [remaining_of_handler present, outside] at position
    split
    · simp [Yields]
    · split
      · rename_i finished
        refine ⟨?_, fun _ => Option.some_ne_none _, ?_⟩
        · rintro other ⟨⟩ -
          exact finished
        · change s.request.offset + handler.bytesToRead = offset + count + uncounted s.reader
          rwa [outside]
      · cases spliced with
        | none => exact holds
        | some bytes =>
            dsimp only
            split
            · refine ⟨holds.registered, fun _ => ?_, ?_⟩
              · change s.request.readHandler ≠ none
                simp [present]
              · have left := remaining_of_handler present
                change s.request.offset + bytes + remaining s =
                  offset + count + uncounted (if bytes > 0 then .spliced bytes else .outside)
                simp only [uncounted] at position
                split
                · simp only [uncounted]
                  omega
                · simp only [uncounted]
                  omega
            · simp [Yields]

theorem countRead_reading (conserves : Conserves file offset count s) (holds : Reading offset count s) :
    Yields (· = .underflow) (Reading offset count) s.countRead := by
  unfold Transfer.countRead
  split
  · rename_i handler bytes present inside
    have left := remaining_of_handler present
    have reads := conserves.reads
    have position := holds.position
    rw [inside, left] at reads position
    simp only [uncounted] at reads position
    simp only [subtract, if_pos reads, bind, Except.bind]
    refine ⟨?_, fun _ => Option.some_ne_none _, ?_⟩
    · rintro other ⟨⟩ unregistered
      have finished := holds.registered handler present unregistered
      change handler.bytesToRead - bytes = 0
      omega
    · change s.request.offset + (handler.bytesToRead - bytes) = offset + count + 0
      omega
  · simp [Yields]

theorem step_reading (conserves : Conserves file offset count s) (holds : Reading offset count s) (op : TransferOp) :
    Yields (· = .underflow) (Reading offset count) (s.step op) := by
  cases op with
  | performWrite spliced => exact performWrite_reading holds spliced
  | countWritten =>
      rw [Transfer.step, Transfer.countWritten]
      split
      · simp [Yields]
      · rename_i bytes inside
        have writes := conserves.writes
        rw [inside, writing] at writes
        simp only [subtract, if_pos writes, bind, Except.bind]
        exact { holds with }
  | startReading => exact startReading_reading holds
  | handlerReady spliced => exact handlerReady_reading holds spliced
  | countRead => exact countRead_reading conserves holds
  | putMessage =>
      rw [Transfer.step, Transfer.putMessage]
      split
      · rename_i bytes inside
        have position := holds.position
        rw [inside] at position
        exact ⟨holds.registered, fun outside => absurd rfl outside, position⟩
      · simp [Yields]
  | messageAvailable =>
      rw [Transfer.step, Transfer.messageAvailable]
      split
      · exact { holds with }
      · simp [Yields]

structure Exhausted (s : Transfer) : Prop where
  fileEnds : s.file.length ≤ s.request.offset
  reading : s.request.readHandler ≠ none
  toRead : 0 < remaining s
  outside : s.reader = .outside ∧ s.writer = .outside
  written : s.request.queue = [] ∧ s.request.bytesInPipe = 0 ∧ s.pipe = []

instance (s : Transfer) : Decidable (Exhausted s) :=
  decidable_of_iff (s.file.length ≤ s.request.offset ∧ s.request.readHandler ≠ none ∧ 0 < remaining s ∧
      (s.reader = .outside ∧ s.writer = .outside) ∧ s.request.queue = [] ∧ s.request.bytesInPipe = 0 ∧ s.pipe = [])
    ⟨fun ⟨a, b, c, d, e⟩ => ⟨a, b, c, d, e⟩, fun ⟨a, b, c, d, e⟩ => ⟨a, b, c, d, e⟩⟩

def Ended (t : FallibleTransfer) : Prop := t.transfer.request.isComplete ∨ t.failed

instance (t : FallibleTransfer) : Decidable (Ended t) := inferInstanceAs (Decidable (_ ∨ _))

/-- Some events without an error of the kernel complete the request, or fail it. -/
def CanEnd (t : FallibleTransfer) : Prop :=
  ∃ ops : List TransferOp, Ends Ended (t.run (ops.map .step))

def atReader : ReadThread → Nat
  | .outside => 0
  | .spliced bytes => 6 * bytes + 4
  | .subtracted bytes => 5 * bytes + 3

def atWriter : SocketThread → Nat
  | .outside => 0
  | .spliced bytes => bytes + 1

/-- A byte weighs less at each place that it comes to. -/
def workLeft (s : Transfer) : Nat :=
  (!s.request.started).toNat + s.request.readHandler.isNone.toNat +
    11 * (remaining s - uncounted s.reader) + atReader s.reader + (4 * s.request.queue.sum + s.request.queue.length) +
    3 * (s.request.bytesInPipe - writing s.writer) + atWriter s.writer

theorem countWritten_descends (conserves : Conserves file offset count s) {bytes : Nat} (inside : s.writer = .spliced bytes) :
    ∃ s', s.step .countWritten = .ok s' ∧ workLeft s' < workLeft s := by
  have writes := conserves.writes
  rw [inside, writing] at writes
  refine ⟨_, by simp only [Transfer.step, Transfer.countWritten, inside, subtract, if_pos writes, bind, Except.bind]; rfl, ?_⟩
  simp only [workLeft, remaining, FileWriteRequest.bytesWritten, inside, writing, atWriter]
  omega

theorem countRead_descends (conserves : Conserves file offset count s) {handler : FileReadHandler} {bytes : Nat}
    (present : s.request.readHandler = some handler) (inside : s.reader = .spliced bytes) :
    ∃ s', s.step .countRead = .ok s' ∧ workLeft s' < workLeft s := by
  have reads := conserves.reads
  rw [inside, remaining_of_handler present, uncounted] at reads
  refine ⟨_, by simp only [Transfer.step, Transfer.countRead, present, inside, subtract, if_pos reads, bind, Except.bind]; rfl, ?_⟩
  simp only [workLeft, remaining, present, inside, uncounted, atReader, Option.map_some, Option.getD_some, Option.isNone_some]
  omega

theorem putMessage_descends {bytes : Nat} (inside : s.reader = .subtracted bytes) :
    ∃ s', s.step .putMessage = .ok s' ∧ workLeft s' < workLeft s := by
  refine ⟨_, by simp only [Transfer.step, Transfer.putMessage, inside]; rfl, ?_⟩
  simp only [workLeft, remaining, inside, uncounted, atReader, List.sum_append, List.sum_singleton, List.length_append,
    List.length_singleton]
  omega

theorem messageAvailable_descends {message : Nat} {queue : List Nat} (waiting : s.request.queue = message :: queue)
    (outside : s.writer = .outside) : ∃ s', s.step .messageAvailable = .ok s' ∧ workLeft s' < workLeft s := by
  refine ⟨_, by simp only [Transfer.step, Transfer.messageAvailable, waiting, outside]; rfl, ?_⟩
  simp only [workLeft, remaining, waiting, outside, writing, atWriter, List.sum_cons, List.length_cons]
  omega

theorem start_descends (outside : s.writer = .outside) (fresh : s.request.started = false) :
    ∃ s', s.step (.performWrite none) = .ok s' ∧ workLeft s' < workLeft s := by
  refine ⟨_, by simp only [Transfer.step, Transfer.performWrite, outside, fresh]; rfl, ?_⟩
  simp only [workLeft, remaining, fresh, outside, writing, atWriter, Bool.not_false, Bool.not_true, Bool.toNat_true, Bool.toNat_false]
  omega

theorem startReading_descends (outside : s.writer = .outside) (started : s.request.started = true)
    (absent : s.request.readHandler = none) : ∃ s', s.step .startReading = .ok s' ∧ workLeft s' < workLeft s := by
  refine ⟨_, by rw [Transfer.step, Transfer.startReading, if_pos ⟨started, absent, outside⟩], ?_⟩
  simp only [workLeft, remaining, absent, Option.map_some, Option.map_none, Option.getD_some, Option.getD_none,
    Option.isNone_some, Option.isNone_none, Bool.toNat_true, Bool.toNat_false]
  omega

theorem performWrite_descends (outside : s.writer = .outside) (started : s.request.started = true)
    (arrived : s.request.bytesInPipe ≤ s.pipe.length) (positive : 0 < s.request.bytesInPipe) :
    ∃ s', s.step (.performWrite (some s.request.bytesInPipe)) = .ok s' ∧ workLeft s' < workLeft s := by
  have moves : s.request.bytesInPipe ≤ s.request.bytesInPipe ∧ s.request.bytesInPipe ≤ s.pipe.length :=
    ⟨Nat.le_refl _, arrived⟩
  refine ⟨_, by simp only [Transfer.step, Transfer.performWrite, outside, started, Bool.not_true, Bool.false_eq_true,
    if_false, if_pos moves]; rfl, ?_⟩
  simp only [workLeft, remaining, outside, writing, atWriter]
  omega

theorem handlerReady_descends {handler : FileReadHandler} (present : s.request.readHandler = some handler)
    (outside : s.reader = .outside) (registered : handler.registered = true) (toRead : 0 < handler.bytesToRead)
    (more : s.request.offset < s.file.length) :
    ∃ op s', s.step op = .ok s' ∧ workLeft s' < workLeft s := by
  obtain ⟨bytes, positive, moves⟩ : ∃ bytes, 0 < bytes ∧
      bytes ≤ handler.bytesToRead ∧ bytes ≤ s.file.length - s.request.offset :=
    ⟨min handler.bytesToRead (s.file.length - s.request.offset), by omega, Nat.min_le_left _ _, Nat.min_le_right _ _⟩
  have someLeft : handler.bytesToRead ≠ 0 := by omega
  refine ⟨.handlerReady (some bytes), _, by simp only [Transfer.step, Transfer.handlerReady, present, outside, registered,
    Bool.true_eq_false, if_false, if_neg someLeft, if_pos moves]; rfl, ?_⟩
  simp only [workLeft, remaining, present, outside, if_pos positive, uncounted, atReader, Option.map_some, Option.getD_some,
    Option.isNone_some]
  omega

theorem complete_or_exhausted_or_descends (conserves : Conserves file offset count s) (reading : Reading offset count s) :
    (s.request.isComplete ∨ Exhausted s) ∨ ∃ op s', s.step op = .ok s' ∧ workLeft s' < workLeft s := by
  cases writer : s.writer with
  | spliced bytes => exact .inr ⟨_, countWritten_descends conserves writer⟩
  | outside =>
  cases started : s.request.started with
  | false => exact .inr ⟨_, start_descends writer started⟩
  | true =>
  cases present : s.request.readHandler with
  | none => exact .inr ⟨_, startReading_descends writer started present⟩
  | some handler =>
  cases reader : s.reader with
  | spliced bytes => exact .inr ⟨_, countRead_descends conserves present reader⟩
  | subtracted bytes => exact .inr ⟨_, putMessage_descends reader⟩
  | outside =>
  cases queue : s.request.queue with
  | cons message rest => exact .inr ⟨_, messageAvailable_descends queue writer⟩
  | nil =>
  have piped := conserves.piped
  have balance := conserves.balance
  have left := remaining_of_handler present
  simp only [counted, reader, writer, queue, uncounted, handing, writing, List.sum_nil] at piped balance
  by_cases empty : s.request.bytesInPipe = 0
  · by_cases finished : handler.bytesToRead = 0
    · refine .inl (.inl ?_)
      rw [FileWriteRequest.isComplete, decide_eq_true_iff, conserves.sameCount]
      omega
    · by_cases more : s.request.offset < s.file.length
      · have registered : handler.registered = true := by
          refine Bool.not_eq_false _ ▸ fun unregistered => ?_
          exact finished (reading.registered handler present unregistered)
        exact .inr (handlerReady_descends present reader registered (Nat.pos_of_ne_zero finished) more)
      · refine .inl (.inr ⟨Nat.le_of_not_lt more, by simp [present], by omega, ⟨reader, writer⟩, queue, empty, ?_⟩)
        exact List.eq_nil_of_length_eq_zero (by omega)
  · exact .inr ⟨_, performWrite_descends writer started (by omega) (Nat.pos_of_ne_zero empty)⟩

theorem reaches_complete_or_exhausted (conserves : Conserves file offset count s) (reading : Reading offset count s) :
    ∃ ops s', s.run ops = .ok s' ∧ (Conserves file offset count s' ∧ Reading offset count s') ∧
      (s'.request.isComplete ∨ Exhausted s') := by
  have goes : ∀ s, Conserves file offset count s ∧ Reading offset count s → (s.request.isComplete ∨ Exhausted s) ∨
      ∃ op s', True ∧ s.step op = .ok s' ∧ (Conserves file offset count s' ∧ Reading offset count s') ∧
        workLeft s' < workLeft s := by
    rintro s ⟨conserves, reading⟩
    obtain reached | ⟨op, s', taken, smaller⟩ := complete_or_exhausted_or_descends conserves reading
    · exact .inl reached
    · exact .inr ⟨op, s', trivial, taken,
        ⟨(step_conserves conserves op).of_ok taken, (step_reading conserves reading op).of_ok taken⟩, smaller⟩
  obtain ⟨ops, s', -, done, holds, reached⟩ := reaches_of_rank workLeft goes ⟨conserves, reading⟩
  exact ⟨ops, s', done, holds, reached⟩

theorem enough_of_complete (conserves : Conserves file offset count s) (complete : s.request.isComplete) :
    count ≤ file.length - offset := by
  rw [FileWriteRequest.isComplete, decide_eq_true_iff, conserves.sameCount] at complete
  have sent := conserves.sent
  have total := congrArg List.length conserves.moved
  rw [List.length_append, List.length_take, List.length_drop] at total
  omega

theorem not_exhausted_of_enough (conserves : Conserves file offset count s) (reading : Reading offset count s)
    (enough : count ≤ file.length - offset) : ¬ Exhausted s := by
  intro exhausted
  have position := reading.position
  have fileEnds := exhausted.fileEnds
  have toRead := exhausted.toRead
  rw [exhausted.outside.1, uncounted] at position
  rw [conserves.sameFile] at fileEnds
  have start := conserves.position
  omega

theorem run_map_step (t : FallibleTransfer) (ops : List TransferOp) :
    t.run (ops.map .step) = (t.transfer.run ops).map fun transfer => { t with transfer } := by
  induction ops generalizing t with
  | nil => rfl
  | cons op ops ih =>
      simp only [FallibleTransfer.run, Transfer.run, List.map_cons, Wangle.Transition.run, FallibleTransfer.step] at ih ⊢
      cases taken : t.transfer.step op with
      | error e => rfl
      | ok transfer => exact ih { t with transfer }

def Sound (file : List UInt8) (offset count : Nat) (t : FallibleTransfer) : Prop :=
  t.failed ∨ Conserves file offset count t.transfer ∧ Reading offset count t.transfer

theorem step_sound {t t' : FallibleTransfer} {op : FallibleOp} (sound : Sound file offset count t)
    (taken : t.step op = .ok t') : Sound file offset count t' := by
  cases op with
  | step op =>
      obtain ⟨transfer, moved, rfl⟩ := map_eq_ok.mp taken
      obtain failed | ⟨conserves, reading⟩ := sound
      · exact .inl failed
      · exact .inr ⟨(step_conserves conserves op).of_ok moved, (step_reading conserves reading op).of_ok moved⟩
  | registerFails =>
      obtain ⟨transfer, -, rfl⟩ := map_eq_ok.mp taken
      exact .inl rfl
  | startFails | readFails | writeFails | putMessageFails =>
      simp only [FallibleTransfer.step] at taken
      split at taken <;> cases taken
      exact .inl rfl

theorem run_sound {ops : List FallibleOp} {t : FallibleTransfer}
    (done : (FallibleTransfer.transferTo file offset count).run ops = .ok t) : Sound file offset count t :=
  run_invariant_all (fun _ _ _ => step_sound) (.inr ⟨transferTo_conserves, transferTo_reading⟩) done

theorem canEnd_of_enough {t : FallibleTransfer} (sound : Sound file offset count t)
    (enough : count ≤ file.length - offset) : CanEnd t := by
  obtain failed | ⟨conserves, reading⟩ := sound
  · exact ⟨[], .inr failed⟩
  · obtain ⟨ops, s', done, ⟨conserves', reading'⟩, complete | exhausted⟩ := reaches_complete_or_exhausted conserves reading
    · refine ⟨ops, ?_⟩
      rw [run_map_step, done]
      exact .inl complete
    · exact absurd exhausted (not_exhausted_of_enough conserves' reading' enough)

theorem not_canEnd_of_short {t : FallibleTransfer} (unfailed : t.failed = false)
    (conserves : Conserves file offset count t.transfer) (short : ¬ count ≤ file.length - offset) : ¬ CanEnd t := by
  rintro ⟨ops, ends⟩
  rw [run_map_step] at ends
  cases done : t.transfer.run ops with
  | error e =>
      rw [done] at ends
      exact ends
  | ok s' =>
      rw [done] at ends
      obtain complete | failed := ends
      · have conserves' := (yields_run_all (fun _ op holds => step_conserves holds op) conserves ops).of_ok done
        exact short (enough_of_complete conserves' complete)
      · exact absurd (unfailed.symm.trans failed) Bool.false_ne_true

/-- A transfer that the kernel reports no error for ends, and an exhausted file is reported, exactly if the file has as
many bytes as are to be transferred. -/
theorem shortFile_reported_iff (file : List UInt8) (offset count : Nat) :
    ((∀ ops t, (FallibleTransfer.transferTo file offset count).run ops = .ok t → Exhausted t.transfer → Ended t) ↔
        count ≤ file.length - offset) ∧
      ((∀ ops t, (FallibleTransfer.transferTo file offset count).run ops = .ok t → CanEnd t) ↔
        count ≤ file.length - offset) := by
  refine ⟨⟨fun reported => ?_, fun enough ops t done exhausted => ?_⟩, fun always => ?_, fun enough ops t done => ?_⟩
  · refine Classical.byContradiction fun short => ?_
    obtain ⟨ops, s', done, ⟨conserves, -⟩, complete | exhausted⟩ :=
      reaches_complete_or_exhausted (@transferTo_conserves file offset count) transferTo_reading
    · exact short (enough_of_complete conserves complete)
    · have reached : (FallibleTransfer.transferTo file offset count).run (ops.map .step) = .ok { transfer := s' } := by
        rw [run_map_step]
        exact congrArg (Except.map _) done
      obtain complete | failed := reported _ _ reached exhausted
      · exact short (enough_of_complete conserves complete)
      · cases failed
  · obtain failed | ⟨conserves, reading⟩ := run_sound done
    · exact .inr failed
    · exact absurd exhausted (not_exhausted_of_enough conserves reading enough)
  · refine Classical.byContradiction fun short => ?_
    exact not_canEnd_of_short rfl transferTo_conserves short (always [] _ rfl)
  · exact canEnd_of_enough (run_sound done) enough

theorem short_file_never_ends :
    ∃ ops t, (FallibleTransfer.transferTo [7] 0 2).run ops = .ok t ∧ Exhausted t.transfer ∧ ¬ Ended t ∧ ¬ CanEnd t := by
  have ends : Ends (fun t => Exhausted t.transfer ∧ ¬ Ended t ∧ t.failed = false)
      ((FallibleTransfer.transferTo [7] 0 2).run ([.performWrite none, .startReading, .handlerReady (some 1), .countRead,
        .putMessage, .messageAvailable, .performWrite (some 1), .countWritten, .handlerReady (some 0)].map .step)) := by
    decide
  obtain ⟨t, done, exhausted, unended, unfailed⟩ := ends.exists_ok
  refine ⟨_, t, done, exhausted, unended, ?_⟩
  obtain failed | ⟨conserves, -⟩ := run_sound done
  · exact absurd (unfailed.symm.trans failed) Bool.false_ne_true
  · exact not_canEnd_of_short unfailed conserves (by decide)

end Wangle.Proof.Channel
