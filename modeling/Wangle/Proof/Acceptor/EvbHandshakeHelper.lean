import Wangle.Acceptor.EvbHandshakeHelper

/-!
# The two threads of an `EvbHandshakeHelper`

The transition of `state_` decides which thread goes on to touch the transport. A `Phase` says, for each of
its outcomes, how far both threads have come and which functions are queued.
-/

namespace Wangle.Proof.Acceptor
open Wangle.Acceptor EvbHandshakeHelper
open Wangle.Transition hiding run

structure Tally where
  drops : Nat := 0
  reports : Nat := 0
  helperDrops : Nat := 0
  detaches : Nat := 0
  guardsSet : Nat := 0
  guardsCleared : Nat := 0
  completions : Nat := 0
  deriving DecidableEq, Repr

def Tally.add (t : Tally) : HandshakeEvent → Tally
  | .dropConnection _ => { t with drops := t.drops + 1 }
  | .reported _ => { t with reports := t.reports + 1 }
  | .helperDropConnection => { t with helperDrops := t.helperDrops + 1 }
  | .detachEventBase => { t with detaches := t.detaches + 1 }
  | .guardSet => { t with guardsSet := t.guardsSet + 1 }
  | .guardCleared => { t with guardsCleared := t.guardsCleared + 1 }
  | .completed _ => { t with completions := t.completions + 1 }

def tally (trace : List HandshakeEvent) : Tally := trace.foldl Tally.add {}

theorem tally_concat {trace : List HandshakeEvent} {t : Tally} (counted : tally trace = t) (event : HandshakeEvent) :
    tally (trace ++ [event]) = t.add event := by
  rw [tally, List.foldl_append, ← counted]
  rfl

variable {σ ε : Type} {wrapped : AcceptorHandshakeHelper σ ε} {s s' : EvbHandshakeHelper σ}

def Quiescent (s : EvbHandshakeHelper σ) : Prop :=
  s.originalQueue = [] ∧ s.handshakeQueue = [] ∧ s.original = .idle ∧ s.handshake = .idle

structure Protocol (s : EvbHandshakeHelper σ) : Prop where
  atMostOnce : (tally s.trace).completions ≤ 1
  exactlyOnce : Quiescent s → 0 < (tally s.trace).drops + (tally s.trace).reports → (tally s.trace).completions = 1
  attached : (tally s.trace).helperDrops = 0 ∨ (tally s.trace).detaches = 0
  guard : (tally s.trace).guardsCleared ≤ (tally s.trace).guardsSet ∧ (tally s.trace).guardsSet ≤ 1
  cleared : Quiescent s → (tally s.trace).guardsCleared = (tally s.trace).guardsSet
  untouched : 0 < (tally s.trace).guardsCleared → Quiescent s

/-- The original thread before the wrapped helper is dropped: the state and the guard, what it has posted to
the handshake thread, and what it has added to the tally. -/
inductive Racing : HandshakeState → OriginalThread → Bool → List HandshakeTask → Tally → Prop
  | started : Racing .started .idle false [] {}
  | dropping (reason : SSLErrorEnum) : Racing .dropped (.dropping true reason) false [] { drops := 1 }
  | notified (reason : SSLErrorEnum) :
      Racing .dropped (.notified true reason) true [] { drops := 1, guardsSet := 1, completions := 1 }
  | posted (reason : SSLErrorEnum) :
      Racing .dropped .idle true [.dropConnection reason] { drops := 1, guardsSet := 1, completions := 1 }

theorem Racing.begun {state : HandshakeState} {original : OriginalThread} {guard : Bool}
    {rest : List HandshakeTask} {base : Tally} (side : Racing state original guard rest base) : .start ∉ rest := by
  cases side with
  | posted reason => simp
  | _ => simp

/-- The handshake thread meanwhile: the wrapped helper, the event base of the transport, and the queue, in
which `rest` comes last. -/
inductive Handshaking (wrapped : AcceptorHandshakeHelper σ ε) (rest : List HandshakeTask) :
    Option σ → Option EventBase → HandshakeThread → List HandshakeTask → Prop
  | queued (helper : σ) : Handshaking wrapped rest (some helper) none .idle (.start :: rest)
  | running (helper : σ) : Handshaking wrapped rest (some helper) (some .handshake) .idle rest
  | reporting (helper : σ) (report : Report) (reported : wrapped.reported helper = true) :
      Handshaking wrapped rest (some helper) (some .handshake) (.reporting report false) rest

theorem Handshaking.rest_eq_nil {rest queue : List HandshakeTask} {helper : Option σ} {evb : Option EventBase}
    {thread : HandshakeThread} (inner : Handshaking wrapped rest helper evb thread queue) (empty : queue = []) :
    rest = [] := by
  cases inner with
  | queued helper => cases empty
  | running helper => exact empty
  | reporting helper report reported => exact empty

inductive Forwarding : Option σ → Option EventBase → HandshakeThread → Prop
  | reporting (helper : σ) (report : Report) : Forwarding (some helper) (some .handshake) (.reporting report true)
  | dropped (helper : σ) (evb : Option EventBase) : Forwarding (some helper) evb .helperDropped
  | reset (evb : Option EventBase) : Forwarding none evb .helperReset

inductive Late : OriginalThread → Bool → Tally → Prop
  | none : Late .idle false {}
  | dropping (reason : SSLErrorEnum) : Late (.dropping false reason) false { drops := 1 }
  | notified (reason : SSLErrorEnum) :
      Late (.notified false reason) true { drops := 1, guardsSet := 1, completions := 1 }
  | returned : Late .idle true { drops := 1, guardsSet := 1, completions := 1 }

inductive Delivering : HandshakeThread → List OriginalTask → Nat → Prop
  | won (report : Report) : Delivering (.won report false) [] 0
  | detached (report : Report) : Delivering (.detached report false) [] 1
  | posted (report : Report) : Delivering .idle [.callback report] 1

inductive Phase (wrapped : AcceptorHandshakeHelper σ ε) : EvbHandshakeHelper σ → Prop
  | fresh (helper : σ) : Phase wrapped { helper := some helper }
  | racing {state original guard rest base helper evb thread queue trace} {reports : Nat}
      (side : Racing state original guard rest base) (inner : Handshaking wrapped rest helper evb thread queue)
      (counted : tally trace = { base with reports := reports }) (first : state = .started → reports = 0) :
      Phase wrapped
        { helper := helper, state := state, originalEvb := true, dropConnectionGuard := guard, transportEvb := evb,
          original := original, handshake := thread, handshakeQueue := queue, destroyed := guard, trace := trace }
  | forwarding {helper evb thread trace} {reports : Nat} (inner : Forwarding helper evb thread)
      (counted : tally trace =
        { drops := 1, reports := reports, helperDrops := 1, guardsSet := 1, completions := 1 }) :
      Phase wrapped
        { helper := helper, state := .dropped, originalEvb := true, dropConnectionGuard := true, transportEvb := evb,
          handshake := thread, destroyed := true, trace := trace }
  | clearing {evb trace} {reports : Nat}
      (counted : tally trace =
        { drops := 1, reports := reports, helperDrops := 1, guardsSet := 1, completions := 1 }) :
      Phase wrapped
        { helper := none, state := .dropped, originalEvb := true, dropConnectionGuard := true, transportEvb := evb,
          originalQueue := [.clearGuard], destroyed := true, trace := trace }
  | delivering {helper evb original guard base thread queue trace} {detaches : Nat}
      (reported : wrapped.reported helper = true) (side : Late original guard base)
      (inner : Delivering thread queue detaches)
      (counted : tally trace = { base with reports := 1, detaches := detaches }) :
      Phase wrapped
        { helper := some helper, state := .callback, originalEvb := true, dropConnectionGuard := guard,
          transportEvb := evb, original := original, originalQueue := queue, handshake := thread,
          destroyed := guard, trace := trace }
  | released {state evb trace} {t : Tally} (counted : tally trace = t) (completed : t.completions = 1)
      (cleared : t.guardsCleared = t.guardsSet) (guard : t.guardsSet ≤ 1)
      (attached : t.helperDrops = 0 ∨ t.detaches = 0) :
      Phase wrapped
        { helper := none, state := state, originalEvb := true, transportEvb := evb, destroyed := true, trace := trace }

def Fine (wrapped : AcceptorHandshakeHelper σ ε) (s : EvbHandshakeHelper σ) :
    Except Fault (EvbHandshakeHelper σ) → Prop
  | .ok s' => Phase wrapped s'
  | .error .checkFailed => s.originalEvb = false
  | .error .released => False
  | .error .noHelper => False
  | .error (.helper _) => True
  | .error .notEnabled => True

theorem callHelper_rule {call : σ → Reply σ} {quiet : HandshakeThread} {inDrop : Bool} {helper : σ}
    (once : ReportsOnce wrapped.reported call) (there : s.helper = some helper)
    (Q : Except Fault (EvbHandshakeHelper σ) → Prop) (stuck : ∀ e, Q (.error (.helper e)))
    (silent : ∀ helper', wrapped.reported helper' = wrapped.reported helper →
      Q (.ok { s with helper := some helper', handshake := quiet }))
    (reports : ∀ helper' report, wrapped.reported helper = false → wrapped.reported helper' = true →
      Q (.ok { s with helper := some helper', handshake := .reporting report inDrop })) :
    Q (callHelper call quiet inDrop s) := by
  unfold callHelper
  rw [there]
  cases called : call helper with
  | error e => simpa [called] using stuck e
  | ok reply =>
      obtain ⟨helper', report⟩ := reply
      obtain ⟨after, before⟩ := once helper helper' report called
      cases report with
      | none =>
          simp only [called]
          exact silent helper' (by simpa using after)
      | some report =>
          simp only [called]
          refine reports helper' report ?_ (by simpa using after)
          exact Bool.eq_false_iff.mpr fun reported => by cases before reported

theorem stepOriginal_fine (phase : Phase wrapped s) : Fine wrapped s s.stepOriginal := by
  cases phase with
  | fresh helper => trivial
  | racing side inner counted first =>
      cases side with
      | started => trivial
      | dropping reason => exact .racing (.notified reason) inner (tally_concat (tally_concat counted _) _) nofun
      | notified reason =>
          refine .racing (.posted reason) ?_ counted nofun
          cases inner with
          | queued helper => exact .queued helper
          | running helper => exact .running helper
          | reporting helper report reported => exact .reporting helper report reported
      | posted reason => trivial
  | forwarding inner counted => trivial
  | clearing counted =>
      exact .released (tally_concat counted _) rfl rfl (Nat.le_refl 1) (.inr rfl)
  | delivering reported side inner counted =>
      cases side with
      | none =>
          cases inner with
          | posted report => exact .released (tally_concat counted _) rfl rfl (Nat.zero_le 1) (.inl rfl)
          | _ => trivial
      | dropping reason =>
          exact .delivering reported (.notified reason) inner (tally_concat (tally_concat counted _) _)
      | notified reason => exact .delivering reported .returned inner counted
      | returned =>
          cases inner with
          | posted report => exact .released (tally_concat counted _) rfl rfl (Nat.le_refl 1) (.inl rfl)
          | _ => trivial
  | released => trivial

theorem stepHandshake_task {task : HandshakeTask} {queue : List HandshakeTask} (idle : s.handshake = .idle)
    (front : s.handshakeQueue = task :: queue) (alive : s.released = false) :
    s.stepHandshake wrapped = runHandshake wrapped { s with handshakeQueue := queue } task := by
  simp [stepHandshake, idle, front, alive]

theorem stepHandshake_fine (phase : Phase wrapped s) : Fine wrapped s (s.stepHandshake wrapped) := by
  cases phase with
  | fresh helper => trivial
  | racing side inner counted first =>
      cases inner with
      | queued helper =>
          rw [stepHandshake_task rfl rfl (by simp [EvbHandshakeHelper.released]), runHandshake]
          exact callHelper_rule wrapped.start_reportsOnce rfl (Fine wrapped _) (fun _ => trivial)
            (fun helper _ => .racing side (.running helper) counted first)
            (fun helper report _ reported => .racing side (.reporting helper report reported) counted first)
      | running helper =>
          cases side with
          | posted reason =>
              rw [stepHandshake_task rfl rfl rfl, runHandshake]
              exact callHelper_rule (wrapped.dropConnection_reportsOnce reason) rfl (Fine wrapped _)
                (fun _ => trivial)
                (fun helper _ => .forwarding (.dropped helper _) (tally_concat counted _))
                (fun helper report _ reported => .forwarding (.reporting helper report) (tally_concat counted _))
          | _ => trivial
      | reporting helper report reported =>
          cases side with
          | started =>
              cases first rfl
              exact .delivering reported .none (.won report) (tally_concat counted _)
          | dropping reason => exact .racing (.dropping reason) (.running helper) (tally_concat counted _) nofun
          | notified reason => exact .racing (.notified reason) (.running helper) (tally_concat counted _) nofun
          | posted reason => exact .racing (.posted reason) (.running helper) (tally_concat counted _) nofun
  | forwarding inner counted =>
      cases inner with
      | reporting helper report => exact .forwarding (.dropped helper _) (tally_concat counted _)
      | dropped helper => exact .forwarding (.reset _) counted
      | reset => exact .clearing counted
  | clearing counted => trivial
  | delivering reported side inner counted =>
      cases inner with
      | won report =>
          cases side with
          | none => exact .delivering reported .none (.detached report) (tally_concat counted _)
          | dropping reason => exact .delivering reported (.dropping reason) (.detached report) (tally_concat counted _)
          | notified reason => exact .delivering reported (.notified reason) (.detached report) (tally_concat counted _)
          | returned => exact .delivering reported .returned (.detached report) (tally_concat counted _)
      | detached report =>
          cases side with
          | none => exact .delivering reported .none (.posted report) counted
          | dropping reason => exact .delivering reported (.dropping reason) (.posted report) counted
          | notified reason => exact .delivering reported (.notified reason) (.posted report) counted
          | returned => exact .delivering reported .returned (.posted report) counted
      | posted report => trivial
  | released => trivial

theorem step_start_fine (phase : Phase wrapped s) : Fine wrapped s (step wrapped s .start) := by
  cases phase with
  | fresh helper => exact .racing .started (.queued helper) rfl fun _ => rfl
  | _ => trivial

theorem step_dropConnection_fine (reason : SSLErrorEnum) (phase : Phase wrapped s) :
    Fine wrapped s (step wrapped s (.dropConnection reason)) := by
  cases phase with
  | fresh helper => exact rfl
  | racing side inner counted first =>
      cases side with
      | started => exact .racing (.dropping reason) inner (tally_concat counted _) nofun
      | _ => trivial
  | delivering reported side inner counted =>
      cases side with
      | none => exact .delivering reported (.dropping reason) inner (tally_concat counted _)
      | _ => trivial
  | _ => trivial

theorem step_event_eq {e : ε} (started : s.originalEvb = true) (begun : .start ∉ s.handshakeQueue)
    (idle : s.handshake = .idle) (there : s.helper.isSome = true) :
    step wrapped s (.event e) = callHelper (wrapped.event e) .idle false s := by
  simp only [step]
  exact if_pos ⟨started, begun, idle, there⟩

theorem step_event_fine (e : ε) (phase : Phase wrapped s) : Fine wrapped s (step wrapped s (.event e)) := by
  cases phase with
  | fresh helper => trivial
  | racing side inner counted first =>
      cases inner with
      | queued helper => trivial
      | running helper =>
          rw [step_event_eq rfl side.begun rfl rfl]
          exact callHelper_rule (wrapped.event_reportsOnce e) rfl (Fine wrapped _) (fun _ => trivial)
            (fun helper _ => .racing side (.running helper) counted first)
            (fun helper report _ reported => .racing side (.reporting helper report reported) counted first)
      | reporting helper report reported => simp [step, Fine]
  | forwarding inner counted =>
      cases inner with
      | _ => trivial
  | clearing counted => trivial
  | delivering reported side inner counted =>
      cases inner with
      | posted report =>
          rw [step_event_eq rfl (by simp) rfl rfl]
          -- the one report has been made
          refine callHelper_rule (wrapped.event_reportsOnce e) rfl (Fine wrapped _) (fun _ => trivial)
            (fun helper same => ?_) (fun helper report unreported _ => ?_)
          · exact .delivering (same.trans reported) side (.posted report) counted
          · exact absurd (reported.symm.trans unreported) (by decide)
      | _ => trivial
  | released => trivial

theorem step_fine (phase : Phase wrapped s) (op : HandshakeOp ε) : Fine wrapped s (step wrapped s op) := by
  cases op with
  | start => exact step_start_fine phase
  | dropConnection reason => exact step_dropConnection_fine reason phase
  | original => exact stepOriginal_fine phase
  | handshake => exact stepHandshake_fine phase
  | event e => exact step_event_fine e phase

theorem step_phase {op : HandshakeOp ε} (phase : Phase wrapped s) (taken : step wrapped s op = .ok s') :
    Phase wrapped s' := by
  have fine := step_fine phase op
  rw [taken] at fine
  exact fine

theorem run_phase {ops : List (HandshakeOp ε)} (phase : Phase wrapped s) (done : run wrapped s ops = .ok s') :
    Phase wrapped s' :=
  run_invariant_all (fun _ _ _ => step_phase) phase done

theorem Protocol.of_busy {t : Tally} (counted : tally s.trace = t) (busy : ¬ Quiescent s)
    (completed : t.completions ≤ 1) (cleared : t.guardsCleared = 0) (guard : t.guardsSet ≤ 1)
    (attached : t.helperDrops = 0 ∨ t.detaches = 0) : Protocol s := by
  subst counted
  refine ⟨completed, fun quiescent => absurd quiescent busy, attached, ⟨by omega, guard⟩,
    fun quiescent => absurd quiescent busy, fun some => ?_⟩
  omega

theorem Racing.protocol {state : HandshakeState} {original : OriginalThread} {guard : Bool}
    {rest : List HandshakeTask} {base : Tally} {reports : Nat} (side : Racing state original guard rest base)
    (inner : Handshaking wrapped rest s.helper s.transportEvb s.handshake s.handshakeQueue)
    (thread : s.original = original)
    (counted : tally s.trace = { base with reports := reports }) (first : state = .started → reports = 0) :
    Protocol s := by
  cases side with
  | started =>
      cases first rfl
      refine ⟨?_, ?_, .inl ?_, ?_, ?_, ?_⟩
      all_goals simp [counted]
  | dropping reason =>
      refine .of_busy counted (fun quiescent => ?_) (Nat.zero_le 1) rfl (Nat.zero_le 1) (.inl rfl)
      rw [quiescent.2.2.1] at thread
      cases thread
  | notified reason =>
      refine .of_busy counted (fun quiescent => ?_) (Nat.le_refl 1) rfl (Nat.le_refl 1) (.inl rfl)
      rw [quiescent.2.2.1] at thread
      cases thread
  | posted reason =>
      refine .of_busy counted (fun quiescent => ?_) (Nat.le_refl 1) rfl (Nat.le_refl 1) (.inl rfl)
      cases inner.rest_eq_nil quiescent.2.1

theorem Phase.protocol (phase : Phase wrapped s) : Protocol s := by
  cases phase with
  | fresh helper => exact ⟨Nat.zero_le 1, by simp [tally], .inl rfl, ⟨Nat.le_refl 0, Nat.zero_le 1⟩, fun _ => rfl, nofun⟩
  | racing side inner counted first => exact side.protocol inner rfl counted first
  | forwarding inner counted =>
      refine .of_busy counted (fun quiescent => ?_) (Nat.le_refl 1) rfl (Nat.le_refl 1) (.inr rfl)
      cases inner with
      | _ => cases quiescent.2.2.2
  | clearing counted =>
      exact .of_busy counted (fun quiescent => by cases quiescent.1) (Nat.le_refl 1) rfl (Nat.le_refl 1) (.inr rfl)
  | delivering reported side inner counted =>
      refine .of_busy counted (fun quiescent => ?_) ?_ ?_ ?_ (.inl ?_)
      · cases inner with
        | won report => cases quiescent.2.2.2
        | detached report => cases quiescent.2.2.2
        | posted report => cases quiescent.1
      all_goals
        cases side with
        | _ => simp
  | released counted completed cleared guard attached =>
      subst counted
      exact ⟨Nat.le_of_eq completed, fun _ _ => completed, attached, ⟨Nat.le_of_eq cleared, guard⟩, fun _ => cleared,
        fun _ => ⟨rfl, rfl, rfl, rfl⟩⟩

theorem run_ne_of_phase {ops : List (HandshakeOp ε)} {e : Fault} (never : ∀ s, ¬ Fine wrapped s (.error e))
    (phase : Phase wrapped s) : run wrapped s ops ≠ .error e := by
  refine run_ne_error (fun _ _ _ phase _ => step_phase phase) ?_ phase (along_true s ops)
  intro s op phase _ failed
  have fine := step_fine phase op
  rw [failed] at fine
  exact never s fine

/-- The helper's part in the protocol of its two threads holds for every wrapped helper that reports at most
once and for every interleaving. -/
theorem run_protocol (wrapped : AcceptorHandshakeHelper σ ε) (helper : σ) (ops : List (HandshakeOp ε)) :
    run wrapped { helper := some helper } ops ≠ .error .released ∧
      run wrapped { helper := some helper } ops ≠ .error .noHelper ∧
      ∀ s, run wrapped { helper := some helper } ops = .ok s → Protocol s :=
  ⟨run_ne_of_phase (fun _ => id) (.fresh helper), run_ne_of_phase (fun _ => id) (.fresh helper),
    fun _ done => (run_phase (.fresh helper) done).protocol⟩

inductive Calls (wrapped : AcceptorHandshakeHelper σ ε) (s : EvbHandshakeHelper σ) : HandshakeOp ε → (σ → Reply σ) → Prop
  | start (front : .start ∈ s.handshakeQueue) : Calls wrapped s .handshake wrapped.start
  | dropConnection (reason : SSLErrorEnum) (queue : List HandshakeTask) (idle : s.handshake = .idle)
      (front : s.handshakeQueue = .dropConnection reason :: queue) :
      Calls wrapped s .handshake (wrapped.dropConnection reason)
  | event (e : ε) : Calls wrapped s (.event e) (wrapped.event e)

def Unbegun (s : EvbHandshakeHelper σ) : Prop := s.state = .invalid ∨ .start ∈ s.handshakeQueue

theorem Phase.forwards {reason : SSLErrorEnum} {queue : List HandshakeTask} (phase : Phase wrapped s)
    (front : s.handshakeQueue = .dropConnection reason :: queue) : s.state = .dropped ∧ ¬ Unbegun s := by
  cases phase with
  | racing side inner counted first =>
      cases side with
      | posted reason =>
          cases inner with
          | queued helper => cases front
          | running helper => exact ⟨rfl, by simp [Unbegun]⟩
          | reporting helper report reported => exact ⟨rfl, by simp [Unbegun]⟩
      | _ =>
          cases inner with
          | _ => cases front
  | _ => cases front

theorem Phase.originalEvb (phase : Phase wrapped s) (valid : s.state ≠ .invalid) : s.originalEvb = true := by
  cases phase with
  | fresh helper => exact absurd rfl valid
  | _ => rfl

structure Keeps (s t : EvbHandshakeHelper σ) : Prop where
  helper : ∀ helper, t.helper = some helper → s.helper = some helper
  state : t.state = s.state
  queue : .start ∈ s.handshakeQueue → .start ∈ t.handshakeQueue

theorem release_keeps (s : EvbHandshakeHelper σ) : Keeps s s.release := by
  unfold release
  split
  · exact ⟨nofun, rfl, id⟩
  · exact ⟨fun _ => id, rfl, id⟩

theorem complete_keeps (report : Report) (s : EvbHandshakeHelper σ) : Keeps s (s.complete report) :=
  let kept := release_keeps { s.record (.completed report) with destroyed := true }
  ⟨kept.helper, kept.state, kept.queue⟩

theorem clearGuard_keeps (s : EvbHandshakeHelper σ) : Keeps s s.clearGuard :=
  let kept := release_keeps { s.record .guardCleared with dropConnectionGuard := false }
  ⟨kept.helper, kept.state, kept.queue⟩

theorem runOriginal_keeps (task : OriginalTask) (s : EvbHandshakeHelper σ) : Keeps s (s.runOriginal task) := by
  cases task with
  | clearGuard => exact clearGuard_keeps s
  | callback report =>
      simp only [runOriginal]
      split
      · have kept := clearGuard_keeps { s with transportEvb := some .original }
        exact ⟨kept.helper, kept.state, kept.queue⟩
      · have kept := complete_keeps report { s with transportEvb := some .original }
        exact ⟨kept.helper, kept.state, kept.queue⟩

inductive HelperStep (wrapped : AcceptorHandshakeHelper σ ε) (s : EvbHandshakeHelper σ) :
    HandshakeOp ε → Except Fault (EvbHandshakeHelper σ) → Prop
  | stuck {op : HandshakeOp ε} (e : Fault) (own : ∀ stuck, e ≠ .helper stuck) : HelperStep wrapped s op (.error e)
  | refused {op : HandshakeOp ε} {call : σ → Reply σ} {helper : σ} {stuck : HelperStuck} (calls : Calls wrapped s op call)
      (there : s.helper = some helper) (returned : call helper = .error stuck) :
      HelperStep wrapped s op (.error (.helper stuck))
  | called {op : HandshakeOp ε} {call : σ → Reply σ} {helper helper' : σ} {report : Option Report} {s' : EvbHandshakeHelper σ}
      (calls : Calls wrapped s op call) (there : s.helper = some helper) (returned : call helper = .ok (helper', report))
      (after : s'.helper = some helper') (state : s'.state = s.state) : HelperStep wrapped s op (.ok s')
  | started {s' : EvbHandshakeHelper σ} (helper : s'.helper = s.helper) (queue : .start ∈ s'.handshakeQueue)
      (state : s'.state = .started ∨ s'.state = s.state) : HelperStep wrapped s .start (.ok s')
  | dropping {s' : EvbHandshakeHelper σ} (reason : SSLErrorEnum) (helper : s'.helper = s.helper)
      (queue : s'.handshakeQueue = s.handshakeQueue) (was : s.state = .started) (state : s'.state = .dropped) :
      HelperStep wrapped s (.dropConnection reason) (.ok s')
  | kept {op : HandshakeOp ε} {s' : EvbHandshakeHelper σ} (kept : Keeps s s') : HelperStep wrapped s op (.ok s')
  | won {s' : EvbHandshakeHelper σ} (helper : s'.helper = s.helper) (queue : s'.handshakeQueue = s.handshakeQueue)
      (was : s.state = .started) (state : s'.state = .callback) : HelperStep wrapped s .handshake (.ok s')

theorem callHelper_helperStep {op : HandshakeOp ε} {call : σ → Reply σ} {quiet : HandshakeThread} {inDrop : Bool}
    {t : EvbHandshakeHelper σ} (calls : Calls wrapped s op call) (helper : t.helper = s.helper)
    (state : t.state = s.state) : HelperStep wrapped s op (callHelper call quiet inDrop t) := by
  unfold callHelper
  split
  · exact .stuck _ nofun
  · rename_i there
    rw [helper] at there
    split
    · rename_i returned
      exact .refused calls there returned
    · rename_i returned
      exact .called calls there returned rfl state
    · rename_i returned
      exact .called calls there returned rfl state

theorem stepOriginal_helperStep {op : HandshakeOp ε} : HelperStep wrapped s op s.stepOriginal := by
  unfold stepOriginal
  split
  · rename_i won reason phase
    have kept := complete_keeps (.connectionError (.runtimeError "connection dropped") (some reason)) s.setGuard
    exact .kept ⟨kept.helper, kept.state, kept.queue⟩
  · split
    · exact .stuck _ nofun
    · refine .kept ⟨fun _ => id, rfl, fun start => ?_⟩
      dsimp only
      split
      · exact List.mem_append_left _ start
      · exact start
  · split
    · exact .stuck _ nofun
    · rename_i task queue front
      split
      · exact .stuck _ nofun
      · have kept := runOriginal_keeps task { s with originalQueue := queue }
        exact .kept ⟨kept.helper, kept.state, kept.queue⟩

theorem stepHandshake_helperStep : HelperStep wrapped s .handshake (s.stepHandshake wrapped) := by
  unfold stepHandshake
  split
  · rename_i idle
    split
    · exact .stuck _ nofun
    · rename_i task queue front
      split
      · exact .stuck _ nofun
      · cases task with
        | start => exact callHelper_helperStep (.start (by simp [front])) rfl rfl
        | dropConnection reason => exact callHelper_helperStep (.dropConnection reason queue idle front) rfl rfl
  · split
    · exact .stuck _ nofun
    · split
      · exact .stuck _ nofun
      · simp only [tryTransition]
        split
        · rename_i was
          exact .won rfl rfl was rfl
        · exact .kept ⟨fun _ => id, rfl, id⟩
  all_goals
    split
    · exact .stuck _ nofun
    · first
        | exact .kept ⟨fun _ => id, rfl, id⟩
        | exact .kept ⟨nofun, rfl, id⟩

theorem step_helperStep (op : HandshakeOp ε) : HelperStep wrapped s op (step wrapped s op) := by
  cases op with
  | start =>
      simp only [step]
      split
      · exact .stuck _ nofun
      · simp only [start, tryTransition]
        split
        · exact .started rfl (by simp) (.inl rfl)
        · exact .started rfl (by simp) (.inr rfl)
  | dropConnection reason =>
      simp only [step]
      split
      · simp only [dropConnection]
        split
        · simp only [tryTransition]
          split
          · rename_i was
            exact .dropping reason rfl rfl was rfl
          · exact .kept ⟨fun _ => id, rfl, id⟩
        · exact .stuck _ nofun
      · exact .stuck _ nofun
  | original => exact stepOriginal_helperStep
  | handshake => exact stepHandshake_helperStep
  | event e =>
      simp only [step]
      split
      · exact callHelper_helperStep (.event e) rfl rfl
      · exact .stuck _ nofun

theorem step_valid {op : HandshakeOp ε} (valid : s.state ≠ .invalid) (taken : step wrapped s op = .ok s') :
    s'.state ≠ .invalid := by
  have effect : HelperStep wrapped s op _ := step_helperStep op
  rw [taken] at effect
  cases effect with
  | called calls there returned after state => exact state ▸ valid
  | started helper queue state =>
      rcases state with state | state
      · exact state ▸ nofun
      · exact state ▸ valid
  | dropping reason helper queue was state => exact state ▸ nofun
  | kept kept => exact kept.state ▸ valid
  | won helper queue was state => exact state ▸ nofun

end Wangle.Proof.Acceptor
