import Wangle.Service.ClientDispatcher
import Wangle.Codec.LengthFieldPrepender
import Mathlib.Data.List.Nodup

/-!
# Which promise a response fulfils

Responses and promises are paired by position, and the promise of a request whose write throws keeps its
place.
-/

namespace Wangle.Proof.Service
open Wangle.Service PipelinedClientDispatcher
open Wangle.Transition hiding run

variable {Resp : Type} {s s' : PipelinedClientDispatcher Resp}

/-- The k-th response has fulfilled the promise of the k-th request that was written, and no promise has
been fulfilled twice. -/
def Paired (s : PipelinedClientDispatcher Resp) : Prop :=
  s.fulfilled.map Prod.fst = s.written.take s.fulfilled.length ∧ (s.fulfilled.map Prod.fst).Nodup

/-- As many requests as have been answered were written first of all, in the order in which they were issued. -/
def InOrder (s : PipelinedClientDispatcher Resp) : Prop :=
  s.written.take s.fulfilled.length = List.range s.fulfilled.length

structure Queued (s : PipelinedClientDispatcher Resp) : Prop where
  promises : s.fulfilled.map Prod.fst ++ s.p = List.range s.issued
  writing : s.writing.length + s.written.length ≤ s.issued
  awaited : s.fulfilled.length ≤ s.written.length

theorem init_queued : Queued ({} : PipelinedClientDispatcher Resp) := ⟨rfl, Nat.le_refl 0, Nat.le_refl 0⟩

theorem step_queued {op : Op Resp} (queued : Queued s) (taken : s.step op = .ok s') : Queued s' := by
  cases op with
  | call =>
      cases taken
      refine ⟨?_, ?_, queued.awaited⟩
      · simp only [call, List.range_succ, ← queued.promises, List.append_assoc]
      · have bound := queued.writing
        simp only [call, List.length_cons]
        omega
  | wrote i =>
      simp only [step, wrote] at taken
      split at taken
      · rename_i member
        cases taken
        have bound := queued.writing
        have awaited := queued.awaited
        have erased := List.length_erase_of_mem member
        have some := List.length_pos_of_mem member
        refine ⟨queued.promises, ?_, ?_⟩
        · simp only [erased, List.length_append, List.length_singleton]
          omega
        · simp only [List.length_append, List.length_singleton]
          omega
      · cases taken
  | threw i =>
      simp only [step, threw] at taken
      split at taken
      · rename_i member
        cases taken
        have bound := queued.writing
        refine ⟨queued.promises, ?_, queued.awaited⟩
        have shorter := List.length_erase_le (a := i) (l := s.writing)
        simp only
        omega
      · cases taken
  | response resp =>
      simp only [step] at taken
      split at taken
      · rename_i awaited
        unfold PipelinedClientDispatcher.read at taken
        split at taken
        · cases taken
        · rename_i promise p front
          cases taken
          refine ⟨?_, queued.writing, ?_⟩
          · have promises := queued.promises
            rw [front] at promises
            simpa using promises
          · simp only [List.length_append, List.length_singleton]
            omega
      · cases taken

theorem run_queued {ops : List (Op Resp)} (done : run {} ops = .ok s) : Queued s :=
  run_invariant_all (fun _ _ _ queued taken => step_queued queued taken) init_queued done

theorem Queued.fulfilled_eq (queued : Queued s) : s.fulfilled.map Prod.fst = List.range s.fulfilled.length := by
  have promises := queued.promises
  have bound := queued.writing
  have awaited := queued.awaited
  have front := congrArg (List.take s.fulfilled.length) promises
  rw [List.take_left' (by simp), List.take_range, Nat.min_eq_left (by omega)] at front
  exact front

theorem Queued.step_ne_checkFailed (queued : Queued s) (op : Op Resp) : s.step op ≠ .error .checkFailed := by
  cases op with
  | call => simp [step]
  | wrote i =>
      simp only [step, wrote]
      split <;> simp
  | threw i =>
      simp only [step, threw]
      split <;> simp
  | response resp =>
      simp only [step]
      split
      · rename_i awaited
        have count := congrArg List.length queued.promises
        have bound := queued.writing
        unfold PipelinedClientDispatcher.read
        split
        · rename_i empty
          simp only [empty, List.append_nil, List.length_map, List.length_range] at count
          omega
        · simp
      · simp

/-- Responses reach the requests they answer just if the requests that were answered were written in the
order in which they were issued, with none before or between them whose write threw. -/
theorem run_paired_iff (ops : List (Op Resp)) (s : PipelinedClientDispatcher Resp) (done : run {} ops = .ok s) :
    Paired s ↔ InOrder s := by
  have fulfilled := (run_queued done).fulfilled_eq
  rw [Paired, InOrder, fulfilled, eq_comm]
  exact and_iff_left List.nodup_range

theorem run_paired_iff_two :
    ∃ s : PipelinedClientDispatcher Nat,
      run {} [.call, .wrote 0, .call, .response 7, .wrote 1, .response 8] = .ok s ∧ (Paired s ↔ InOrder s) :=
  ⟨_, rfl, run_paired_iff [.call, .wrote 0, .call, .response 7, .wrote 1, .response 8] _ rfl⟩

/-- A message of 256 bytes does not fit a length field of one byte. Its write throws, and the response to the
next request fulfils its promise. -/
theorem failed_write_shifts_responses :
    Codec.LengthFieldPrepender.write { lengthFieldLength := 1 } (List.replicate 256 0) =
        .error (.runtime "length does not fit byte") ∧
      Codec.LengthFieldPrepender.write { lengthFieldLength := 1 } [5] = .ok [1, 5] ∧
      ∃ s : PipelinedClientDispatcher Nat,
        run {} [.call, .threw 0, .call, .wrote 1, .response 7] = .ok s ∧ s.fulfilled = [(0, 7)] ∧ ¬ Paired s :=
  ⟨by decide +kernel, by decide +kernel, _, rfl, rfl, fun paired => absurd paired.1 (by decide)⟩

end Wangle.Proof.Service
