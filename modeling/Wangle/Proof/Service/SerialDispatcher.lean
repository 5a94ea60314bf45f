import Wangle.Service.ClientDispatcher
import Mathlib.Data.List.Range

/-!
# One request at a time

`p_` is set before the write and reset only after the continuations of the response have run. Between two
requests the dispatcher is idle again unless a write has thrown or a continuation is still running.
-/

namespace Wangle.Proof.Service
open Wangle.Service SerialClientDispatcher
open Wangle.Transition hiding run

variable {Resp : Type} {s s' : SerialClientDispatcher Resp}

/-- A request is issued only after the one before it has completed or its call has thrown. -/
def WellBehaved (s : SerialClientDispatcher Resp) : Op Resp → Prop
  | .call => s.issued = 0 ∨ s.issued - 1 ∈ s.fulfilled.map Prod.fst ∨ s.issued - 1 ∈ s.thrown
  | _ => True

instance (s : SerialClientDispatcher Resp) : DecidablePred (WellBehaved s)
  | .call => inferInstanceAs (Decidable (_ ∨ _))
  | .wrote _ | .returned | .threw | .response _ | .continued => isTrue trivial

/-- No request is issued inside the continuations of a response, and none after a write that has thrown
(unless that request was answered all the same). -/
def Undisturbed (s : SerialClientDispatcher Resp) : Op Resp → Prop
  | .call => Frame.fulfilling ∉ s.calls ∧ ∀ i ∈ s.thrown, i ∈ s.fulfilled.map Prod.fst
  | _ => True

def InTurn (s : SerialClientDispatcher Resp) : Prop :=
  s.fulfilled.map Prod.fst = s.written.take s.fulfilled.length ∧ (s.fulfilled.map Prod.fst).Nodup

inductive Standing (s : SerialClientDispatcher Resp) (n : Nat) : Prop
  | idle (promise : s.p = none) (issued : s.issued = n) (written : s.written = List.range n)
      (calls : Frame.fulfilling ∉ s.calls)
  | waiting (promise : s.p = some n) (issued : s.issued = n + 1)
      (written : s.written = List.range n ∨ s.written = List.range (n + 1)) (calls : Frame.fulfilling ∉ s.calls)
  | fulfilling (promise : s.p = some (n - 1)) (issued : s.issued = n) (written : s.written = List.range n)
      (calls : s.calls.count .fulfilling = 1)

structure Serial (s : SerialClientDispatcher Resp) : Prop where
  fulfilled : s.fulfilled.map Prod.fst = List.range s.fulfilled.length
  calls : ∀ i, Frame.writing i ∈ s.calls → i < s.issued
  thrown : ∀ i ∈ s.thrown, i < s.issued
  phase : Standing s s.fulfilled.length

theorem init_serial : Serial ({} : SerialClientDispatcher Resp) where
  fulfilled := rfl
  calls := by simp
  thrown := by simp
  phase := .idle rfl rfl rfl (by simp)

theorem call_serial (serial : Serial s) (taken : s.call = .ok s') : Serial s' := by
  unfold call at taken
  split at taken
  · cases taken
  · rename_i none
    cases taken
    cases serial.phase with
    | idle promise issued written calls =>
        refine ⟨serial.fulfilled, ?_, ?_, .waiting (congrArg some issued) (congrArg (· + 1) issued) (.inl written) ?_⟩
        · intro i member
          rcases List.mem_cons.mp member with same | member
          · cases same
            exact Nat.lt_succ_self _
          · exact Nat.lt_succ_of_lt (serial.calls i member)
        · exact fun i member => Nat.lt_succ_of_lt (serial.thrown i member)
        · simpa using calls
    | waiting promise => simp [promise] at none
    | fulfilling promise => simp [promise] at none

theorem wrote_serial {i : Nat} (serial : Serial s) (taken : s.wrote i = .ok s') : Serial s' := by
  unfold wrote at taken
  split at taken
  · rename_i writable
    obtain ⟨issued, fresh, -⟩ := writable
    cases taken
    refine ⟨serial.fulfilled, serial.calls, serial.thrown, ?_⟩
    cases serial.phase with
    | idle promise issued' written calls =>
        rw [written, List.mem_range] at fresh
        omega
    | waiting promise issued' written calls =>
        refine .waiting promise issued' (.inr ?_) calls
        rcases written with written | written <;> rw [written, List.mem_range] at fresh
        · have same : i = s.fulfilled.length := by omega
          simp only [written, same, List.range_succ]
        · omega
    | fulfilling promise issued' written calls =>
        rw [written, List.mem_range] at fresh
        omega
  · cases taken

theorem Serial.left_write {i : Nat} {calls : List Frame} (serial : Serial s) (innermost : s.calls = .writing i :: calls)
    {thrown : List Nat} (known : ∀ j ∈ thrown, j < s.issued) : Serial { s with calls := calls, thrown := thrown } := by
  refine ⟨serial.fulfilled, fun j member => serial.calls j ?_, known, ?_⟩
  · rw [innermost]
    exact List.mem_cons_of_mem _ member
  · cases serial.phase with
    | idle promise issued written absent =>
        exact .idle promise issued written fun member => absent (innermost ▸ List.mem_cons_of_mem _ member)
    | waiting promise issued written absent =>
        exact .waiting promise issued written fun member => absent (innermost ▸ List.mem_cons_of_mem _ member)
    | fulfilling promise issued written once =>
        rw [innermost, List.count_cons_of_ne (by simp)] at once
        exact .fulfilling promise issued written once

theorem returned_serial (serial : Serial s) (taken : s.returned = .ok s') : Serial s' := by
  unfold returned at taken
  split at taken
  · rename_i i calls innermost
    cases taken
    exact serial.left_write innermost serial.thrown
  · cases taken

theorem threw_serial (serial : Serial s) (taken : s.threw = .ok s') : Serial s' := by
  unfold threw at taken
  split at taken
  · rename_i i calls innermost
    cases taken
    apply serial.left_write innermost
    intro j member
    rcases List.mem_cons.mp member with same | member
    · exact same ▸ serial.calls i (innermost ▸ List.mem_cons_self)
    · exact serial.thrown j member
  · cases taken

theorem Serial.waiting_of_awaited (serial : Serial s) (awaited : s.fulfilled.length < s.written.length) :
    s.p = some s.fulfilled.length ∧ s.issued = s.fulfilled.length + 1 ∧
      s.written = List.range (s.fulfilled.length + 1) ∧ Frame.fulfilling ∉ s.calls := by
  cases serial.phase with
  | idle promise issued written calls => simp [written] at awaited
  | waiting promise issued written calls =>
      rcases written with written | written
      · simp [written] at awaited
      · exact ⟨promise, issued, written, calls⟩
  | fulfilling promise issued written calls => simp [written] at awaited

theorem read_serial {resp : Resp} (serial : Serial s) (awaited : s.fulfilled.length < s.written.length)
    (taken : s.read resp = .ok s') : Serial s' := by
  obtain ⟨promise, issued, written, calls⟩ := serial.waiting_of_awaited awaited
  simp only [SerialClientDispatcher.read, promise] at taken
  cases taken
  have length : (s.fulfilled ++ [(s.fulfilled.length, resp)]).length = s.fulfilled.length + 1 := by simp
  refine ⟨?_, fun i member => serial.calls i (by simpa using member), serial.thrown, ?_⟩
  · rw [length, List.map_append, serial.fulfilled, List.range_succ]
    rfl
  · rw [length]
    refine .fulfilling rfl issued written ?_
    rw [List.count_cons_self, List.count_eq_zero_of_not_mem calls]

theorem continued_serial (serial : Serial s) (taken : s.continued = .ok s') : Serial s' := by
  unfold continued at taken
  split at taken
  · rename_i calls innermost
    cases taken
    have inside : Frame.fulfilling ∈ s.calls := innermost ▸ List.mem_cons_self
    refine ⟨serial.fulfilled, fun i member => serial.calls i ?_, serial.thrown, ?_⟩
    · rw [innermost]
      exact List.mem_cons_of_mem _ member
    · cases serial.phase with
      | idle promise issued written absent => exact absurd inside absent
      | waiting promise issued written absent => exact absurd inside absent
      | fulfilling promise issued written once =>
          rw [innermost, List.count_cons_self] at once
          exact .idle rfl issued written (List.count_eq_zero.mp (Nat.succ.inj once))
  · cases taken

theorem step_serial {op : Op Resp} (serial : Serial s) (taken : s.step op = .ok s') : Serial s' := by
  cases op with
  | call => exact call_serial serial taken
  | wrote i => exact wrote_serial serial taken
  | returned => exact returned_serial serial taken
  | threw => exact threw_serial serial taken
  | response resp =>
      simp only [step] at taken
      split at taken
      · rename_i awaited
        exact read_serial serial awaited taken
      · cases taken
  | continued => exact continued_serial serial taken

theorem Serial.inTurn (serial : Serial s) : InTurn s := by
  rw [InTurn, serial.fulfilled]
  refine ⟨?_, List.nodup_range⟩
  cases serial.phase with
  | idle promise issued written calls => simp [written]
  | waiting promise issued written calls =>
      rcases written with written | written
      · simp [written]
      · simp [written, List.take_range]
  | fulfilling promise issued written calls => simp [written]

theorem Serial.call_eq_checkFailed_iff (serial : Serial s) :
    s.call = .error .checkFailed ↔ s.issued = s.fulfilled.length + 1 ∨ Frame.fulfilling ∈ s.calls := by
  cases serial.phase with
  | idle promise issued written calls => simp [call, promise, issued, calls]
  | waiting promise issued written calls => simp [call, promise, issued]
  | fulfilling promise issued written calls =>
      have inside : Frame.fulfilling ∈ s.calls := List.count_pos_iff.mp (by omega)
      simp [call, promise, inside]

theorem call_of_checkFailed {op : Op Resp} (failed : s.step op = .error .checkFailed) : op = .call := by
  cases op <;> grind [step, wrote, returned, threw, SerialClientDispatcher.read, continued]

theorem awaited_of_noPromise {op : Op Resp} (failed : s.step op = .error .noPromise) :
    s.p = none ∧ s.fulfilled.length < s.written.length := by
  cases op <;> grind [step, call, wrote, returned, threw, SerialClientDispatcher.read, continued]

theorem Serial.step_ne_checkFailed {op : Op Resp} (serial : Serial s) (wellBehaved : WellBehaved s op)
    (undisturbed : Undisturbed s op) : s.step op ≠ .error .checkFailed := by
  intro failed
  obtain rfl := call_of_checkFailed failed
  rcases serial.call_eq_checkFailed_iff.mp failed with issued | inside
  · have absent : s.issued - 1 ∉ s.fulfilled.map Prod.fst := by simp [serial.fulfilled, issued]
    rcases wellBehaved with first | completed | thrown
    · omega
    · exact absent completed
    · exact absent (undisturbed.2 _ thrown)
  · exact undisturbed.1 inside

theorem Serial.step_eq_checkFailed {op : Op Resp} (serial : Serial s) (disturbed : ¬ Undisturbed s op) :
    s.step op = .error .checkFailed := by
  cases op with
  | call =>
      apply serial.call_eq_checkFailed_iff.mpr
      by_contra! passes
      refine disturbed ⟨passes.2, fun i member => ?_⟩
      have issued := serial.thrown i member
      rw [serial.fulfilled, List.mem_range]
      cases serial.phase <;> omega
  | _ => exact absurd trivial disturbed

theorem Serial.step_ne_noPromise (serial : Serial s) (op : Op Resp) : s.step op ≠ .error .noPromise := by
  intro failed
  obtain ⟨none, awaited⟩ := awaited_of_noPromise failed
  rw [(serial.waiting_of_awaited awaited).1] at none
  cases none

theorem serial_checks_iff (ops : List (Op Resp)) (wellBehaved : Along step WellBehaved {} ops) :
    (run {} ops ≠ .error .checkFailed ∧ run {} ops ≠ .error .noPromise ∧
        ∀ front s, front <+: ops → run {} front = .ok s → InTurn s) ↔
      Along step Undisturbed ({} : SerialClientDispatcher Resp) ops := by
  constructor
  · intro checks
    apply along_of_ne_error (R := fun _ => True) _ _ init_serial (fun _ _ => trivial) checks.1
    · exact fun s op s' serial _ _ taken => step_serial serial taken
    · exact fun s op serial disturbed => serial.step_eq_checkFailed disturbed
  · intro undisturbed
    refine ⟨?_, ?_, fun front s _ done => ?_⟩
    · apply run_ne_error _ _ init_serial (wellBehaved.and undisturbed)
      · exact fun s op s' serial _ taken => step_serial serial taken
      · exact fun s op serial permitted => serial.step_ne_checkFailed permitted.1 permitted.2
    · apply run_ne_error _ _ init_serial (along_true _ ops)
      · exact fun s op s' serial _ taken => step_serial serial taken
      · exact fun s op serial _ => serial.step_ne_noPromise op
    · exact (run_invariant_all (fun _ _ _ serial taken => step_serial serial taken) init_serial done).inTurn

theorem serial_checks_iff_two :
    (run {} [.call, .wrote 0, .returned, .response 7, .continued, .call, .wrote 1, .response 8] ≠ .error .checkFailed ∧
        run {} [.call, .wrote 0, .returned, .response 7, .continued, .call, .wrote 1, .response 8] ≠ .error .noPromise ∧
        ∀ front s, front <+: [.call, .wrote 0, .returned, .response 7, .continued, .call, .wrote 1, .response 8] →
          run {} front = .ok s → InTurn s) ↔
      Along step Undisturbed ({} : SerialClientDispatcher Nat)
        [.call, .wrote 0, .returned, .response 7, .continued, .call, .wrote 1, .response 8] :=
  serial_checks_iff _ (by decide)

/-- A request that is issued by the continuation of the response before it aborts the process, and so does the
request after one whose write has thrown. -/
theorem chained_request_checkFailed :
    (Along step WellBehaved ({} : SerialClientDispatcher Nat) [.call, .wrote 0, .returned, .response 7, .call] ∧
        run ({} : SerialClientDispatcher Nat) [.call, .wrote 0, .returned, .response 7, .call] =
          .error .checkFailed) ∧
      Along step WellBehaved ({} : SerialClientDispatcher Nat) [.call, .threw, .call] ∧
        run ({} : SerialClientDispatcher Nat) [.call, .threw, .call] = .error .checkFailed :=
  ⟨⟨by decide, rfl⟩, by decide, rfl⟩

end Wangle.Proof.Service
