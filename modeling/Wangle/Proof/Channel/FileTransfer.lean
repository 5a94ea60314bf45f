import Wangle.Channel.FileRegion
import Mathlib.Algebra.GroupWithZero.Nat

/-!
# A file transfer loses no byte and counts none twice
-/

namespace Wangle.Proof.Channel
open Wangle.Channel Wangle.Transition

def remaining (s : Transfer) : Nat := (s.request.readHandler.map (·.bytesToRead)).getD s.request.count

theorem remaining_of_handler {s : Transfer} {handler : FileReadHandler} (present : s.request.readHandler = some handler) :
    remaining s = handler.bytesToRead := by
  simp [remaining, present]

def uncounted : ReadThread → Nat
  | .outside => 0
  | .spliced bytes => bytes
  | .subtracted _ => 0

def handing : ReadThread → Nat
  | .outside => 0
  | .spliced _ => 0
  | .subtracted bytes => bytes

def writing : SocketThread → Nat
  | .outside => 0
  | .spliced bytes => bytes

def counted (s : Transfer) : Nat :=
  remaining s + s.request.queue.sum + s.request.bytesInPipe + s.request.totalBytesWritten

structure Conserves (file : List UInt8) (offset count : Nat) (s : Transfer) : Prop where
  sameFile : s.file = file
  sameCount : s.request.count = count
  balance : count = counted s + handing s.reader
  reads : uncounted s.reader ≤ remaining s
  writes : writing s.writer ≤ s.request.bytesInPipe
  piped : s.pipe.length + writing s.writer =
    uncounted s.reader + handing s.reader + s.request.queue.sum + s.request.bytesInPipe
  sent : s.socket.length = s.request.totalBytesWritten + writing s.writer
  -- the bytes that have left the file, in their order
  moved : s.socket ++ s.pipe = (file.drop offset).take (s.request.offset - offset)
  position : offset ≤ s.request.offset

variable {file : List UInt8} {offset count : Nat} {s : Transfer}

theorem transferTo_conserves : Conserves file offset count (Transfer.transferTo file offset count) where
  sameFile := rfl
  sameCount := rfl
  balance := rfl
  reads := Nat.zero_le _
  writes := Nat.le_refl _
  piped := rfl
  sent := rfl
  moved := by simp [Transfer.transferTo]
  position := Nat.le_refl _

theorem take_front {n : Nat} {socket pipe data : List UInt8} (moved : socket ++ pipe = data) :
    (socket ++ pipe.take n) ++ pipe.drop n = data := by
  rw [List.append_assoc, List.take_append_drop, moved]

theorem performWrite_conserves (holds : Conserves file offset count s) (spliced : Option Nat) :
    Yields (· = .underflow) (Conserves file offset count) (s.performWrite spliced) := by
  unfold Transfer.performWrite
  split
  · simp [Yields]
  · rename_i outside
    dsimp only
    split
    · exact { holds with }
    · cases spliced with
      | none => exact { holds with }
      | some bytes =>
          dsimp only
          split
          · rename_i moves
            have piped := holds.piped
            have sent := holds.sent
            rw [outside] at piped sent
            simp only [writing] at piped sent
            refine { holds with
              writes := moves.1
              piped := ?_
              sent := ?_
              moved := take_front holds.moved }
            · simp only [List.length_drop, writing]
              omega
            · simp only [List.length_append, List.length_take, writing]
              omega
          · simp [Yields]

theorem countWritten_conserves (holds : Conserves file offset count s) :
    Yields (· = .underflow) (Conserves file offset count) s.countWritten := by
  unfold Transfer.countWritten
  cases inside : s.writer with
  | outside => simp [Yields]
  | spliced bytes =>
      obtain ⟨sameFile, sameCount, balance, reads, writes, piped, sent, moved, position⟩ := holds
      rw [inside] at writes piped sent
      simp only [writing, counted] at writes piped sent balance
      simp only [subtract, if_pos writes, bind, Except.bind]
      refine ⟨sameFile, sameCount, ?_, reads, Nat.zero_le _, ?_, sent, moved, position⟩
      · change count = remaining s + s.request.queue.sum + (s.request.bytesInPipe - bytes) +
          (s.request.totalBytesWritten + bytes) + handing s.reader
        omega
      · change s.pipe.length + 0 =
          uncounted s.reader + handing s.reader + s.request.queue.sum + (s.request.bytesInPipe - bytes)
        omega

theorem startReading_conserves (holds : Conserves file offset count s) :
    Yields (· = .underflow) (Conserves file offset count) s.startReading := by
  unfold Transfer.startReading
  split
  · rename_i starts
    have same : remaining s = s.request.count := by simp [remaining, starts.2.1]
    have balance := holds.balance
    have reads := holds.reads
    rw [counted, same] at balance
    rw [same] at reads
    exact { holds with
      balance
      reads }
  · simp [Yields]

theorem take_forward {start position bytes : Nat} {data moved : List UInt8} (ahead : start ≤ position)
    (soFar : moved = (data.drop start).take (position - start)) :
    moved ++ (data.drop position).take bytes = (data.drop start).take (position + bytes - start) := by
  have whole : data.drop position = (data.drop start).drop (position - start) := by
    rw [List.drop_drop, Nat.add_sub_cancel' ahead]
  rw [soFar, whole, ← List.take_add, ← Nat.sub_add_comm ahead]

theorem handlerReady_conserves (holds : Conserves file offset count s) (spliced : Option Nat) :
    Yields (· = .underflow) (Conserves file offset count) (s.handlerReady spliced) := by
  unfold Transfer.handlerReady
  split
  · simp [Yields]
  · simp [Yields]
  · simp [Yields]
  · rename_i handler present outside
    have left := remaining_of_handler present
    split
    · simp [Yields]
    · split
      · have balance := holds.balance
        have reads := holds.reads
        rw [counted, left] at balance
        rw [left] at reads
        exact { holds with
          balance
          reads }
      · cases spliced with
        | none => exact holds
        | some bytes =>
            dsimp only
            split
            · rename_i moves
              have arrives : ((s.file.drop s.request.offset).take bytes).length = bytes := by
                rw [List.length_take, List.length_drop]
                omega
              have onward : uncounted (if bytes > 0 then .spliced bytes else .outside) = bytes := by
                split
                · rfl
                · simp only [uncounted]
                  omega
              have nothing : handing (if bytes > 0 then .spliced bytes else .outside) = 0 := by split <;> rfl
              have balance := holds.balance
              have piped := holds.piped
              rw [outside] at balance piped
              simp only [uncounted, handing] at balance piped
              refine { holds with
                balance := ?_
                reads := ?_
                piped := ?_
                moved := ?_
                position := ?_ }
              · change count = counted s + handing _
                rw [nothing]
                exact balance
              · change uncounted _ ≤ remaining s
                rw [onward, left]
                exact moves.1
              · simp only [List.length_append, onward, nothing, arrives]
                omega
              · rw [← List.append_assoc, holds.sameFile]
                exact take_forward holds.position holds.moved
              · exact Nat.le_trans holds.position (Nat.le_add_right _ _)
            · simp [Yields]

theorem countRead_conserves (holds : Conserves file offset count s) :
    Yields (· = .underflow) (Conserves file offset count) s.countRead := by
  unfold Transfer.countRead
  split
  · rename_i handler bytes present inside
    obtain ⟨sameFile, sameCount, balance, reads, writes, piped, sent, moved, position⟩ := holds
    have left := remaining_of_handler present
    rw [inside, counted, left] at balance
    rw [inside, left] at reads
    rw [inside] at piped
    simp only [uncounted, handing] at reads piped balance
    simp only [subtract, if_pos reads, bind, Except.bind]
    refine ⟨sameFile, sameCount, ?_, Nat.zero_le _, writes, ?_, sent, moved, position⟩
    · change count = handler.bytesToRead - bytes + s.request.queue.sum + s.request.bytesInPipe +
        s.request.totalBytesWritten + bytes
      omega
    · change s.pipe.length + writing s.writer = 0 + bytes + s.request.queue.sum + s.request.bytesInPipe
      omega
  · simp [Yields]

theorem putMessage_conserves (holds : Conserves file offset count s) :
    Yields (· = .underflow) (Conserves file offset count) s.putMessage := by
  unfold Transfer.putMessage
  split
  · rename_i bytes inside
    obtain ⟨sameFile, sameCount, balance, reads, writes, piped, sent, moved, position⟩ := holds
    rw [inside] at balance piped
    simp only [uncounted, handing, counted] at balance piped
    refine ⟨sameFile, sameCount, ?_, Nat.zero_le _, writes, ?_, sent, moved, position⟩
    · change count = remaining s + (s.request.queue ++ [bytes]).sum + s.request.bytesInPipe +
        s.request.totalBytesWritten + 0
      rw [List.sum_append, List.sum_singleton]
      omega
    · change s.pipe.length + writing s.writer = 0 + 0 + (s.request.queue ++ [bytes]).sum + s.request.bytesInPipe
      rw [List.sum_append, List.sum_singleton]
      omega
  · simp [Yields]

theorem messageAvailable_conserves (holds : Conserves file offset count s) :
    Yields (· = .underflow) (Conserves file offset count) s.messageAvailable := by
  unfold Transfer.messageAvailable
  split
  · rename_i message queue waiting outside
    obtain ⟨sameFile, sameCount, balance, reads, writes, piped, sent, moved, position⟩ := holds
    rw [counted, waiting, List.sum_cons] at balance
    rw [waiting, List.sum_cons] at piped
    refine ⟨sameFile, sameCount, ?_, reads, Nat.le_trans writes (Nat.le_add_right _ _), ?_, sent, moved, position⟩
    · change count = remaining s + queue.sum + (s.request.bytesInPipe + message) +
        s.request.totalBytesWritten + handing s.reader
      omega
    · change s.pipe.length + writing s.writer =
        uncounted s.reader + handing s.reader + queue.sum + (s.request.bytesInPipe + message)
      omega
  · simp [Yields]

theorem step_conserves (holds : Conserves file offset count s) (op : TransferOp) :
    Yields (· = .underflow) (Conserves file offset count) (s.step op) := by
  cases op with
  | performWrite spliced => exact performWrite_conserves holds spliced
  | countWritten => exact countWritten_conserves holds
  | startReading => exact startReading_conserves holds
  | handlerReady spliced => exact handlerReady_conserves holds spliced
  | countRead => exact countRead_conserves holds
  | putMessage => exact putMessage_conserves holds
  | messageAvailable => exact messageAvailable_conserves holds

/-- The law of the transfer: between two statements of `handlerReady` the read thread itself holds what it has
subtracted, and otherwise nothing is outside the counters. -/
structure Accounted (offset : Nat) (s : Transfer) : Prop where
  balance : s.request.count = counted s + handing s.reader
  settled : (∀ bytes, s.reader ≠ .subtracted bytes) → s.request.count = counted s
  complete : s.writer = .outside → (s.request.isComplete ↔ s.socket.length = s.request.count)
  delivered : s.socket = (s.file.drop offset).take s.socket.length

theorem handing_eq_zero {reader : ReadThread} (settled : ∀ bytes, reader ≠ .subtracted bytes) : handing reader = 0 := by
  cases reader with
  | outside => rfl
  | spliced bytes => rfl
  | subtracted bytes => exact absurd rfl (settled bytes)

theorem Conserves.accounted (holds : Conserves file offset count s) : Accounted offset s where
  balance := holds.sameCount.trans holds.balance
  settled settled := by
    have balance := holds.sameCount.trans holds.balance
    rwa [handing_eq_zero settled] at balance
  complete outside := by
    have sent := holds.sent
    rw [outside] at sent
    rw [FileWriteRequest.isComplete, decide_eq_true_iff, sent]
    rfl
  delivered := by
    have front := congrArg (List.take s.socket.length) holds.moved
    rw [List.take_left, List.take_take] at front
    have short : s.socket.length ≤ s.request.offset - offset := by
      have total := congrArg List.length holds.moved
      rw [List.length_append, List.length_take] at total
      omega
    rwa [Nat.min_eq_left short, ← holds.sameFile] at front

/-- In every state that any interleaving of the two threads reaches, with whatever the splices move, every byte is
counted once, and no subtraction underflows. -/
theorem transfer_accounted (file : List UInt8) (offset count : Nat) (ops : List TransferOp) :
    Yields (· = .underflow) (fun s => s.request.count = count ∧ Accounted offset s)
      ((Transfer.transferTo file offset count).run ops) :=
  (yields_run_all (fun _ op holds => step_conserves holds op) transferTo_conserves ops).imp
    fun _ holds => ⟨holds.sameCount, holds.accounted⟩

/-- What is subtracted is in no counter until `putMessage`, and what is spliced into the socket is not counted until
the end of `performWrite`. -/
theorem counters_lag_behind :
    (∃ s, (Transfer.transferTo [7] 0 1).run [.performWrite none, .startReading, .handlerReady (some 1), .countRead] =
        .ok s ∧ s.request.count = 1 ∧ counted s = 0) ∧
      ∃ s, (Transfer.transferTo [7] 0 1).run [.performWrite none, .startReading, .handlerReady (some 1), .countRead,
          .putMessage, .messageAvailable, .performWrite (some 1)] = .ok s ∧
        s.socket.length = s.request.count ∧ s.request.isComplete = false :=
  ⟨Ends.exists_ok (by decide), Ends.exists_ok (by decide)⟩

-- the second byte is read while the first is written, and the socket once takes nothing
example :
    Ends (fun s => s.request.isComplete ∧ s.socket = [7, 8]) ((Transfer.transferTo [6, 7, 8, 9] 1 2).run
      [.performWrite none, .startReading, .handlerReady (some 1), .countRead, .putMessage, .messageAvailable,
        .performWrite (some 1), .handlerReady (some 1), .countWritten, .countRead, .putMessage, .messageAvailable,
        .performWrite none, .performWrite (some 1), .countWritten]) := by
  decide

end Wangle.Proof.Channel
