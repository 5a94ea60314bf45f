import Wangle.Service.ServerDispatcher
import Mathlib.Algebra.Group.Nat.Defs
import Mathlib.Data.List.Basic
import Mathlib.Data.List.Pairwise

/-!
# The order of pipelined responses
-/

namespace Wangle.Proof.Service
open Wangle.Service PipelinedServerDispatcher
open Wangle.Transition hiding run

variable {Resp : Type} {throws : Resp → Bool} {s s' : PipelinedServerDispatcher Resp}

def response? (throws : Resp → Bool) (r : Request Resp) : Option Resp :=
  match r.outcome with
  | .succeeded resp => if throws resp then none else some resp
  | _ => none

def leading (throws : Resp → Bool) : List (Request Resp) → List Resp
  | [] => []
  | r :: rs => match response? throws r with
      | none => []
      | some resp => resp :: leading throws rs

def Outstanding (s : PipelinedServerDispatcher Resp) : Op Resp → Prop
  | .read => s.requests.length + 1 < s.written.length + 2 ^ 32
  | _ => True

theorem getElem?_concat {α : Type} {l : List α} {a x : α} {i : Nat} :
    (l ++ [a])[i]? = some x ↔ l[i]? = some x ∨ (i = l.length ∧ x = a) := by
  rcases Nat.lt_trichotomy i l.length with before | rfl | after
  · rw [List.getElem?_append_left before]
    exact (or_iff_left fun last => absurd last.1 (Nat.ne_of_lt before)).symm
  · simp [eq_comm]
  · rw [List.getElem?_eq_none (by rw [List.length_append]; exact after), List.getElem?_eq_none (Nat.le_of_lt after)]
    simp [Nat.ne_of_gt after]

theorem getElem?_set {α : Type} {l : List α} {a b x : α} {i j : Nat} (stands : l[i]? = some b) :
    (l.set i a)[j]? = some x ↔ (j = i ∧ x = a) ∨ (j ≠ i ∧ l[j]? = some x) := by
  have bound := (List.getElem?_eq_some_iff.mp stands).1
  rw [List.getElem?_set]
  by_cases same : i = j
  · subst same
    simp [bound, eq_comm]
  · simp [same, Ne.symm same]

/-! ## Request ids -/

theorem ofNat_succ (n : Nat) : UInt32.ofNat n + 1 = UInt32.ofNat (n + 1) := (UInt32.ofNat_add n 1).symm

theorem ofNat_ne {i j : Nat} (before : i < j) (near : j < i + 2 ^ 32) : UInt32.ofNat i ≠ UInt32.ofNat j := by
  intro same
  have residue := (UInt32.ofNat_eq_iff_mod_eq_toNat i _).mp same
  rw [UInt32.toNat_ofNat'] at residue
  omega

structure Numbered (s : PipelinedServerDispatcher Resp) : Prop where
  next : s.requestId = UInt32.ofNat (s.requests.length + 1)
  captured : ∀ i r, s.requests[i]? = some r → r.requestId = UInt32.ofNat (i + 1)

def Stored (n : Nat) (s : PipelinedServerDispatcher Resp) : Prop :=
  ∀ id resp, s.responses id = some resp ↔
    ∃ i r, n ≤ i ∧ s.requests[i]? = some r ∧ r.requestId = id ∧ r.outcome = .succeeded resp

inductive Phase (throws : Resp → Bool) (s : PipelinedServerDispatcher Resp) : Prop
  | idle (quiet : s.writing = []) (last : s.lastWrittenId = UInt32.ofNat s.written.length)
      (stored : Stored s.written.length s)
      (waits : ∀ r, s.requests[s.written.length]? = some r → ∀ resp, r.outcome ≠ .succeeded resp)
  | writing {n : Nat} {resp : Resp} (good : throws resp = false) (one : s.writing = [resp])
      (count : s.written.length = n + 1) (last : s.lastWrittenId = UInt32.ofNat n) (stored : Stored (n + 1) s)
  | blocked {resp : Resp} {r : Request Resp} (bad : throws resp = true) (one : s.writing = [] ∨ s.writing = [resp])
      (last : s.lastWrittenId = UInt32.ofNat s.written.length) (stored : Stored (s.written.length + 1) s)
      (stands : s.requests[s.written.length]? = some r) (outcome : r.outcome = .succeeded resp)

def Answered (throws : Resp → Bool) (s : PipelinedServerDispatcher Resp) : Prop :=
  ∀ (i : Nat) (resp : Resp), s.written[i]? = some resp →
    ∃ r, s.requests[i]? = some r ∧ r.outcome = .succeeded resp ∧ throws resp = false

structure Ordered (throws : Resp → Bool) (s : PipelinedServerDispatcher Resp) : Prop extends Numbered s where
  near : s.requests.length < s.written.length + 2 ^ 32
  answered : Answered throws s
  phase : Phase throws s

theorem Numbered.getElem?_lt {i : Nat} {r : Request Resp} (stands : s.requests[i]? = some r) :
    i < s.requests.length :=
  (List.getElem?_eq_some_iff.mp stands).1

theorem Numbered.requestId_ne (numbered : Numbered s) {n i : Nat} {r : Request Resp}
    (near : s.requests.length ≤ n + 2 ^ 32) (after : n < i) (stands : s.requests[i]? = some r) :
    r.requestId ≠ UInt32.ofNat (n + 1) := by
  have bound := Numbered.getElem?_lt stands
  rw [numbered.captured i r stands]
  exact (ofNat_ne (by omega) (by omega)).symm

theorem Stored.erase {n : Nat} (stored : Stored n s) (numbered : Numbered s)
    (near : s.requests.length ≤ n + 2 ^ 32) :
    Stored (n + 1) { s with responses := Function.update s.responses (UInt32.ofNat (n + 1)) none } := by
  intro id resp
  by_cases same : id = UInt32.ofNat (n + 1)
  · subst same
    simp only [Function.update_self, reduceCtorEq, false_iff]
    rintro ⟨i, r, after, stands, id, -⟩
    exact numbered.requestId_ne near after stands id
  · simp only [Function.update_of_ne same]
    refine (stored id resp).trans ⟨?_, ?_⟩
    · rintro ⟨i, r, from_, stands, captured, outcome⟩
      have other : i ≠ n := by
        rintro rfl
        exact same (captured ▸ numbered.captured i r stands)
      exact ⟨i, r, by omega, stands, captured, outcome⟩
    · rintro ⟨i, r, after, rest⟩
      exact ⟨i, r, by omega, rest⟩

/-! ## `sendResponses` -/

theorem Stored.find_eq_none {n : Nat} (stored : Stored (n + 1) s) (numbered : Numbered s)
    (near : s.requests.length ≤ n + 2 ^ 32) (last : s.lastWrittenId = UInt32.ofNat n) :
    sendResponses throws s = s := by
  have nothing : s.responses (s.lastWrittenId + 1) = none := by
    rw [last, ofNat_succ, Option.eq_none_iff_forall_ne_some]
    intro resp found
    obtain ⟨i, r, after, stands, id, -⟩ := (stored _ _).mp found
    exact numbered.requestId_ne near after stands id
  rw [sendResponses, nothing]

theorem sendResponses_ordered (numbered : Numbered s) (near : s.requests.length < s.written.length + 2 ^ 32)
    (answered : Answered throws s) (quiet : s.writing = [])
    (last : s.lastWrittenId = UInt32.ofNat s.written.length)
    (stored : Stored s.written.length s) : Ordered throws (sendResponses throws s) := by
  have id : s.lastWrittenId + 1 = UInt32.ofNat (s.written.length + 1) := by rw [last, ofNat_succ]
  cases found : s.responses (s.lastWrittenId + 1) with
  | none =>
      rw [sendResponses, found]
      refine ⟨numbered, near, answered, .idle quiet last stored fun r stands resp outcome => ?_⟩
      have held := (stored r.requestId resp).mpr ⟨_, r, Nat.le_refl _, stands, rfl, outcome⟩
      rw [numbered.captured _ r stands, ← id, found] at held
      cases held
  | some resp =>
      obtain ⟨i, r, from_, stands, captured, outcome⟩ := (stored _ _).mp found
      have first : i = s.written.length := by
        by_contra other
        exact numbered.requestId_ne (Nat.le_of_lt near) (by omega) stands (captured.trans id)
      subst first
      have left := stored.erase numbered (Nat.le_of_lt near)
      rw [sendResponses, found, id]
      simp only [fireWrite, quiet]
      cases bad : throws resp with
      | true =>
          exact ⟨⟨numbered.next, numbered.captured⟩, near, answered,
            .blocked bad (.inr rfl) last left stands outcome⟩
      | false =>
          refine ⟨⟨numbered.next, numbered.captured⟩, ?_, ?_, ?_⟩
          · simp only [Bool.false_eq_true, if_false, List.length_append, List.length_singleton]
            omega
          · intro j resp' wrote
            rcases getElem?_concat.mp wrote with earlier | ⟨rfl, rfl⟩
            · exact answered j resp' earlier
            · exact ⟨r, stands, outcome, bad⟩
          · exact .writing (n := s.written.length) bad rfl (by simp) last left

/-! ## Steps -/

theorem read_ordered (ordered : Ordered throws s) (outstanding : Outstanding s .read) : Ordered throws s.read := by
  have grown {i : Nat} {r : Request Resp} (stands : s.requests[i]? = some r) : s.read.requests[i]? = some r :=
    getElem?_concat.mpr (.inl stands)
  have stored {n : Nat} (stored : Stored n s) : Stored n s.read := by
    intro id resp
    refine (stored id resp).trans ⟨?_, ?_⟩
    · rintro ⟨i, r, from_, stands, rest⟩
      exact ⟨i, r, from_, grown stands, rest⟩
    · rintro ⟨i, r, from_, stands, captured, outcome⟩
      rcases getElem?_concat.mp stands with earlier | ⟨-, rfl⟩
      · exact ⟨i, r, from_, earlier, captured, outcome⟩
      · cases outcome
  refine ⟨⟨?_, ?_⟩, ?_, ?_, ?_⟩
  · simp only [PipelinedServerDispatcher.read, List.length_append, List.length_singleton, ordered.next, ofNat_succ]
  · intro i r stands
    rcases getElem?_concat.mp stands with earlier | ⟨rfl, rfl⟩
    · exact ordered.captured i r earlier
    · exact ordered.next
  · simpa only [PipelinedServerDispatcher.read, List.length_append, List.length_singleton, Outstanding] using outstanding
  · intro i resp wrote
    obtain ⟨r, stands, rest⟩ := ordered.answered i resp wrote
    exact ⟨r, grown stands, rest⟩
  · cases ordered.phase with
    | idle quiet last held waits =>
        refine .idle quiet last (stored held) fun r stands resp outcome => ?_
        rcases getElem?_concat.mp stands with earlier | ⟨-, rfl⟩
        · exact waits r earlier resp outcome
        · cases outcome
    | writing good one count last held => exact .writing good one count last (stored held)
    | blocked bad one last held stands outcome => exact .blocked bad one last (stored held) (grown stands) outcome

def settle (i : Nat) (r : Request Resp) (responses : UInt32 → Option Resp) (s : PipelinedServerDispatcher Resp) :
    PipelinedServerDispatcher Resp :=
  { s with requests := s.requests.set i r, responses := responses }

section Settle
variable {i : Nat} {requestId : UInt32} {outcome : Outcome Resp} {responses : UInt32 → Option Resp}

theorem ne_of_succeeded {j : Nat} {r : Request Resp} {resp : Resp}
    (stands : s.requests[i]? = some ⟨requestId, .pending⟩) (found : s.requests[j]? = some r)
    (succeeded : r.outcome = .succeeded resp) : j ≠ i := by
  rintro rfl
  rw [stands] at found
  cases found
  cases succeeded

theorem Numbered.settle (numbered : Numbered s) (stands : s.requests[i]? = some ⟨requestId, .pending⟩) :
    Numbered (settle i ⟨requestId, outcome⟩ responses s) := by
  refine ⟨by simpa [Service.settle] using numbered.next, fun j r found => ?_⟩
  rcases (getElem?_set stands).mp found with ⟨rfl, rfl⟩ | ⟨-, found⟩
  · have captured := numbered.captured j _ stands
    exact captured
  · exact numbered.captured j r found

theorem Answered.not_answered (answered : Answered throws s) (stands : s.requests[i]? = some ⟨requestId, .pending⟩) :
    s.written.length ≤ i := by
  by_contra before
  obtain ⟨r, found, succeeded, -⟩ := answered i _ (List.getElem?_eq_getElem (by omega : i < s.written.length))
  exact ne_of_succeeded stands found succeeded rfl

theorem Answered.settle (answered : Answered throws s) (stands : s.requests[i]? = some ⟨requestId, .pending⟩) :
    Answered throws (settle i ⟨requestId, outcome⟩ responses s) := by
  intro j resp wrote
  obtain ⟨r, found, rest⟩ := answered j resp wrote
  have other : j ≠ i := by
    have bound := (List.getElem?_eq_some_iff.mp wrote).1
    have late := answered.not_answered stands
    exact fun same => absurd bound (by show ¬ j < s.written.length; omega)
  exact ⟨r, (getElem?_set stands).mpr (.inr ⟨other, found⟩), rest⟩

theorem Stored.settle_failed {n : Nat} (stored : Stored n s) (stands : s.requests[i]? = some ⟨requestId, .pending⟩) :
    Stored n (settle i ⟨requestId, .failed⟩ s.responses s) := by
  intro id resp
  refine (stored id resp).trans ⟨?_, ?_⟩
  · rintro ⟨j, r, from_, found, captured, succeeded⟩
    have other := ne_of_succeeded stands found succeeded
    exact ⟨j, r, from_, (getElem?_set stands).mpr (.inr ⟨other, found⟩), captured, succeeded⟩
  · rintro ⟨j, r, from_, found, captured, succeeded⟩
    rcases (getElem?_set stands).mp found with ⟨-, rfl⟩ | ⟨-, found⟩
    · cases succeeded
    · exact ⟨j, r, from_, found, captured, succeeded⟩

theorem Numbered.captured_ne (numbered : Numbered s) {n j : Nat} {r : Request Resp}
    (near : s.requests.length ≤ n + 2 ^ 32) (stands : s.requests[i]? = some ⟨requestId, .pending⟩) (from_ : n ≤ i)
    (found : s.requests[j]? = some r) (from' : n ≤ j) (other : j ≠ i) : r.requestId ≠ requestId := by
  have bound := Numbered.getElem?_lt stands
  have bound' := Numbered.getElem?_lt found
  have id : requestId = UInt32.ofNat (i + 1) := numbered.captured i _ stands
  rw [numbered.captured j r found, id]
  rcases Nat.lt_or_gt_of_ne other with before | after
  · exact ofNat_ne (by omega) (by omega)
  · exact (ofNat_ne (by omega) (by omega)).symm

theorem Stored.settle_succeeded {n : Nat} (stored : Stored n s) (resp : Resp) (numbered : Numbered s)
    (near : s.requests.length ≤ n + 2 ^ 32) (stands : s.requests[i]? = some ⟨requestId, .pending⟩) (from_ : n ≤ i) :
    Stored n (settle i ⟨requestId, .succeeded resp⟩ (Function.update s.responses requestId (some resp)) s) := by
  intro id resp'
  have settled {j : Nat} {r : Request Resp} :
      (s.requests.set i ⟨requestId, .succeeded resp⟩)[j]? = some r ↔
        (j = i ∧ r = ⟨requestId, .succeeded resp⟩) ∨ (j ≠ i ∧ s.requests[j]? = some r) := getElem?_set stands
  by_cases same : id = requestId
  · subst same
    simp only [settle, Function.update_self, Option.some.injEq]
    constructor
    · rintro rfl
      exact ⟨i, _, from_, settled.mpr (.inl ⟨rfl, rfl⟩), rfl, rfl⟩
    · rintro ⟨j, r, from', found, captured, succeeded⟩
      rcases settled.mp found with ⟨-, rfl⟩ | ⟨other, found⟩
      · simpa using succeeded
      · exact absurd captured (numbered.captured_ne near stands from_ found from' other)
  · simp only [settle, Function.update_of_ne same]
    refine (stored id resp').trans ⟨?_, ?_⟩
    · rintro ⟨j, r, from', found, captured, succeeded⟩
      have other : j ≠ i := by
        rintro rfl
        rw [stands] at found
        cases found
        exact same captured.symm
      exact ⟨j, r, from', settled.mpr (.inr ⟨other, found⟩), captured, succeeded⟩
    · rintro ⟨j, r, from', found, captured, succeeded⟩
      rcases settled.mp found with ⟨-, rfl⟩ | ⟨other, found⟩
      · exact absurd captured.symm same
      · exact ⟨j, r, from', found, captured, succeeded⟩

theorem Ordered.near_settle (ordered : Ordered throws s) (r : Request Resp) (responses : UInt32 → Option Resp) (i : Nat) :
    (settle i r responses s).requests.length < s.written.length + 2 ^ 32 := by
  simpa only [settle, List.length_set] using ordered.near

theorem settle_failed_ordered (ordered : Ordered throws s) (stands : s.requests[i]? = some ⟨requestId, .pending⟩) :
    Ordered throws (settle i ⟨requestId, .failed⟩ s.responses s) := by
  refine ⟨ordered.toNumbered.settle stands, ordered.near_settle _ _ _, ordered.answered.settle stands, ?_⟩
  cases ordered.phase with
  | idle quiet last held waits =>
      refine .idle quiet last (held.settle_failed stands) fun r found resp succeeded => ?_
      rcases (getElem?_set stands).mp found with ⟨-, rfl⟩ | ⟨-, found⟩
      · cases succeeded
      · exact waits r found resp succeeded
  | writing good one count last held => exact .writing good one count last (held.settle_failed stands)
  | blocked bad one last held found succeeded =>
      have other := ne_of_succeeded stands found succeeded
      exact .blocked bad one last (held.settle_failed stands) ((getElem?_set stands).mpr (.inr ⟨other, found⟩)) succeeded

theorem settle_succeeded_ordered (ordered : Ordered throws s) (stands : s.requests[i]? = some ⟨requestId, .pending⟩)
    (resp : Resp) :
    Ordered throws (sendResponses throws
      (settle i ⟨requestId, .succeeded resp⟩ (Function.update s.responses requestId (some resp)) s)) := by
  have numbered : Numbered (settle i ⟨requestId, .succeeded resp⟩ (Function.update s.responses requestId (some resp)) s) :=
    ordered.toNumbered.settle stands
  have answered : Answered throws
      (settle i ⟨requestId, .succeeded resp⟩ (Function.update s.responses requestId (some resp)) s) :=
    ordered.answered.settle stands
  have near := ordered.near
  have near' := ordered.near_settle ⟨requestId, .succeeded resp⟩ (Function.update s.responses requestId (some resp)) i
  have late := ordered.answered.not_answered stands
  cases ordered.phase with
  | idle quiet last held waits =>
      have stored := held.settle_succeeded resp ordered.toNumbered (by omega) stands late
      exact sendResponses_ordered numbered near' answered quiet last stored
  | @writing n resp' good one count last held =>
      have stored := held.settle_succeeded resp ordered.toNumbered (by omega) stands (by omega)
      rw [stored.find_eq_none numbered (by omega) last]
      exact ⟨numbered, near', answered, .writing good one count last stored⟩
  | blocked bad one last held found succeeded =>
      have other := ne_of_succeeded stands found succeeded
      have stored := held.settle_succeeded resp ordered.toNumbered (by omega) stands (by omega)
      rw [stored.find_eq_none numbered (by omega) last]
      exact ⟨numbered, near', answered,
        .blocked bad one last stored ((getElem?_set stands).mpr (.inr ⟨other, found⟩)) succeeded⟩

end Settle

theorem complete_ordered {i : Nat} {result : Option Resp} (ordered : Ordered throws s)
    (done : s.complete throws i result = .ok s') : Ordered throws s' := by
  unfold PipelinedServerDispatcher.complete at done
  split at done
  · rename_i requestId stands
    split at done
    · cases done
      exact settle_failed_ordered ordered stands
    · rename_i resp
      cases done
      exact settle_succeeded_ordered ordered stands resp
  · cases done

theorem writeEnds_ordered (ordered : Ordered throws s) (done : s.writeEnds throws = .ok s') :
    Ordered throws s' := by
  unfold writeEnds at done
  cases ordered.phase with
  | idle quiet last held waits =>
      rw [quiet] at done
      cases done
  | writing good one count last held =>
      rw [one] at done
      simp only [good, Bool.false_eq_true, if_false] at done
      cases done
      refine sendResponses_ordered ⟨ordered.next, ordered.captured⟩ ordered.near ordered.answered rfl ?_ ?_
      · simp only [last, ofNat_succ, count]
      · rw [← count] at held
        exact held
  | blocked bad one last held found succeeded =>
      rcases one with quiet | one
      · rw [quiet] at done
        cases done
      · rw [one] at done
        simp only [bad, if_true] at done
        cases done
        exact ⟨⟨ordered.next, ordered.captured⟩, ordered.near, ordered.answered,
          .blocked bad (.inl rfl) last held found succeeded⟩

theorem step_ordered {op : Op Resp} (ordered : Ordered throws s) (outstanding : Outstanding s op)
    (taken : s.step throws op = .ok s') : Ordered throws s' := by
  cases op with
  | read =>
      cases taken
      exact read_ordered ordered outstanding
  | complete i result => exact complete_ordered ordered taken
  | writeEnds => exact writeEnds_ordered ordered taken

theorem init_ordered : Ordered throws ({} : PipelinedServerDispatcher Resp) :=
  ⟨⟨rfl, by simp⟩, by simp, by simp [Answered], .idle rfl rfl (by simp [Stored]) (by simp)⟩

/-! ## What has been written -/

theorem Answered.response {i : Nat} {resp : Resp} (answered : Answered throws s) (wrote : s.written[i]? = some resp) :
    ∃ r, s.requests[i]? = some r ∧ response? throws r = some resp := by
  obtain ⟨r, stands, succeeded, good⟩ := answered i resp wrote
  exact ⟨r, stands, by simp [response?, succeeded, good]⟩

theorem leading_of_answers {requests : List (Request Resp)} {written : List Resp}
    (answers : ∀ (i : Nat) resp, written[i]? = some resp → ∃ r, requests[i]? = some r ∧ response? throws r = some resp) :
    leading throws requests = written ++ leading throws (requests.drop written.length) := by
  induction written generalizing requests with
  | nil => simp
  | cons resp written ih =>
      obtain ⟨r, stands, answer⟩ := answers 0 resp rfl
      cases requests with
      | nil => cases stands
      | cons r' requests =>
          cases stands
          simp only [leading, answer, List.length_cons, List.drop_succ_cons, List.cons_append]
          exact congrArg _ (ih fun i resp wrote => answers (i + 1) resp wrote)

theorem Phase.leading_drop (phase : Phase throws s) (quiet : s.writing = []) :
    leading throws (s.requests.drop s.written.length) = [] := by
  cases rest : s.requests.drop s.written.length with
  | nil => rfl
  | cons r requests =>
      have stands : s.requests[s.written.length]? = some r := by
        rw [← Nat.add_zero s.written.length, ← List.getElem?_drop, rest]
        rfl
      have none : response? throws r = none := by
        cases phase with
        | idle _ last held waits =>
            cases outcome : r.outcome with
            | succeeded resp => exact absurd outcome (waits r stands resp)
            | pending => simp [response?, outcome]
            | failed => simp [response?, outcome]
        | writing good one count last held =>
            rw [quiet] at one
            cases one
        | blocked bad one last held found succeeded =>
            rw [stands] at found
            cases found
            simp [response?, succeeded, bad]
      rw [leading, none]

theorem Ordered.leading_eq (ordered : Ordered throws s) (quiet : s.writing = []) :
    s.written = leading throws s.requests := by
  rw [leading_of_answers fun i resp => ordered.answered.response, ordered.phase.leading_drop quiet, List.append_nil]

theorem run_ordered {ops : List (Op Resp)} (outstanding : Along (step throws) Outstanding {} ops)
    (done : run throws {} ops = .ok s) : Ordered throws s :=
  run_invariant (fun _ _ _ ordered permitted taken => step_ordered ordered permitted taken) init_ordered
    outstanding done

/-! ## When every request succeeds -/

def isCompleted (r : Request Resp) : Bool :=
  match r.outcome with
  | .pending => false
  | _ => true

def completed (requests : List (Request Resp)) : List Resp :=
  (requests.takeWhile isCompleted).filterMap (response? fun _ => false)

def Unfailing (s : PipelinedServerDispatcher Resp) : Prop := ∀ r ∈ s.requests, r.outcome ≠ .failed

theorem step_unfailing {op : Op Resp} (unfailing : Unfailing s) (succeeds : ∀ i, op ≠ .complete i none)
    (taken : s.step throws op = .ok s') : Unfailing s' := by
  have sent (m : PipelinedServerDispatcher Resp) : (sendResponses throws m).requests = m.requests := by
    unfold sendResponses
    split <;> rfl
  cases op with
  | read =>
      cases taken
      intro r member
      rcases List.mem_append.mp member with earlier | new
      · exact unfailing r earlier
      · cases List.mem_singleton.mp new
        simp
  | complete i result =>
      simp only [step, PipelinedServerDispatcher.complete] at taken
      split at taken
      · split at taken
        · exact absurd rfl (succeeds i)
        · cases taken
          intro r member
          rw [sent] at member
          rcases List.mem_or_eq_of_mem_set member with earlier | rfl
          · exact unfailing r earlier
          · simp
      · cases taken
  | writeEnds =>
      simp only [step, writeEnds] at taken
      split at taken
      · cases taken
      · split at taken
        · cases taken
          exact unfailing
        · cases taken
          intro r member
          rw [sent] at member
          exact unfailing r member

theorem run_unfailing {ops : List (Op Resp)} (unfailing : Unfailing s) (succeed : ∀ i, Op.complete i none ∉ ops)
    (done : s.run throws ops = .ok s') : Unfailing s' := by
  induction ops generalizing s with
  | nil =>
      cases done
      exact unfailing
  | cons op ops ih =>
      obtain ⟨m, taken, rest⟩ := run_cons.mp done
      simp only [List.mem_cons, not_or] at succeed
      exact ih (step_unfailing unfailing (fun i => Ne.symm (succeed i).1) taken) (fun i => (succeed i).2) rest

theorem completed_eq_leading {requests : List (Request Resp)} (unfailing : ∀ r ∈ requests, r.outcome ≠ .failed) :
    completed requests = leading (fun _ => false) requests := by
  induction requests with
  | nil => rfl
  | cons r requests ih =>
      have rest := ih fun r member => unfailing r (List.mem_cons_of_mem _ member)
      unfold completed at rest ⊢
      cases outcome : r.outcome with
      | failed => exact absurd outcome (unfailing r List.mem_cons_self)
      | pending =>
          have shown : ¬ isCompleted r = true := by simp [isCompleted, outcome]
          rw [List.takeWhile_cons_of_neg shown]
          simp [leading, response?, outcome]
      | succeeded resp =>
          have shown : isCompleted r = true := by simp [isCompleted, outcome]
          rw [List.takeWhile_cons_of_pos shown]
          simp [leading, response?, outcome, rest]

/-- While no future and no write fails, the dispatcher has written the responses of the completed requests
before the first one that is pending: just these when no write is under way, and otherwise the first of them. -/
theorem run_writes_completed (ops : List (Op Resp)) (s : PipelinedServerDispatcher Resp)
    (succeed : ∀ i, Op.complete i none ∉ ops)
    (outstanding : Along (step fun _ => false) Outstanding {} ops) (done : run (fun _ => false) {} ops = .ok s) :
    s.written <+: completed s.requests ∧ (s.writing = [] → s.written = completed s.requests) := by
  have ordered := run_ordered outstanding done
  have unfailing : Unfailing s := by
    refine run_unfailing ?_ succeed done
    simp [Unfailing]
  rw [completed_eq_leading unfailing]
  refine ⟨?_, ordered.leading_eq⟩
  rw [leading_of_answers fun i resp => ordered.answered.response]
  exact List.prefix_append _ _

instance (s : PipelinedServerDispatcher Resp) : (op : Op Resp) → Decidable (Outstanding s op)
  | .read => inferInstanceAs (Decidable (_ < _))
  | .complete _ _ => isTrue trivial
  | .writeEnds => isTrue trivial

theorem run_writes_completed_reversed :
    ∃ s : PipelinedServerDispatcher Nat,
      run (fun _ => false) {} [.read, .read, .complete 1 (some 8), .complete 0 (some 7), .writeEnds, .writeEnds] =
        .ok s ∧
      s.written <+: completed s.requests ∧ (s.writing = [] → s.written = completed s.requests) :=
  ⟨_, rfl, run_writes_completed
    [.read, .read, .complete 1 (some 8), .complete 0 (some 7), .writeEnds, .writeEnds] _ (by simp) (by decide +kernel) rfl⟩

/-! ## When requests fail -/

/-- The request has a response that can be written only if all requests before it have one. -/
def FailuresLast (throws : Resp → Bool) (requests : List (Request Resp)) : Prop :=
  requests.Pairwise fun earlier later => (response? throws later).isSome → (response? throws earlier).isSome

theorem leading_eq_filterMap_iff {requests : List (Request Resp)} :
    leading throws requests = requests.filterMap (response? throws) ↔ FailuresLast throws requests := by
  induction requests with
  | nil => simp [leading, FailuresLast]
  | cons r requests ih =>
      rw [FailuresLast, List.pairwise_cons, ← FailuresLast, ← ih]
      cases answer : response? throws r with
      | some resp => simp [leading, answer]
      | none =>
          simp only [leading, answer, List.filterMap_cons, Option.isSome_none, Bool.false_eq_true, imp_false,
            Bool.not_eq_true, Option.isSome_eq_false_iff, Option.isNone_iff_eq_none]
          constructor
          · intro empty
            have unanswered := List.filterMap_eq_nil_iff.mp empty.symm
            refine ⟨unanswered, ?_⟩
            rw [← empty]
            cases requests with
            | nil => rfl
            | cons r' requests => rw [leading, unanswered r' List.mem_cons_self]
          · exact fun unanswered => (List.filterMap_eq_nil_iff.mpr unanswered.1).symm

/-- Whenever no write is under way, every response that can be written has been written, in order, just if
none of them comes after a request that has none, and so in particular when all futures have completed. -/
theorem run_writes_all_iff (throws : Resp → Bool) (ops : List (Op Resp)) (s : PipelinedServerDispatcher Resp)
    (outstanding : Along (step throws) Outstanding {} ops) (done : run throws {} ops = .ok s)
    (quiet : s.writing = []) :
    s.written = s.requests.filterMap (response? throws) ↔ FailuresLast throws s.requests := by
  rw [(run_ordered outstanding done).leading_eq quiet, leading_eq_filterMap_iff]

theorem run_writes_all_iff_last :
    ∃ s : PipelinedServerDispatcher Nat,
      run (· == 9) {} [.read, .read, .complete 1 (some 9), .complete 0 (some 7), .writeEnds, .writeEnds] = .ok s ∧
      (s.written = s.requests.filterMap (response? (· == 9)) ↔ FailuresLast (· == 9) s.requests) :=
  ⟨_, rfl, run_writes_all_iff (· == 9)
    [.read, .read, .complete 1 (some 9), .complete 0 (some 7), .writeEnds, .writeEnds] _ (by decide +kernel) rfl rfl⟩

/-- The first request fails, and the response of the second one is never written. -/
theorem failure_holds_back_responses :
    ∃ s : PipelinedServerDispatcher Nat,
      run (fun _ => false) {} [.read, .read, .complete 0 none, .complete 1 (some 8)] = .ok s ∧
      (∀ r ∈ s.requests, r.outcome ≠ .pending) ∧ s.writing = [] ∧
        s.written ≠ s.requests.filterMap (response? fun _ => false) :=
  ⟨_, rfl, by decide, rfl, by decide⟩

end Wangle.Proof.Service
