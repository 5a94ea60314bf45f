import Wangle.Proof.Acceptor.Traces

/-!
# How often a connection is notified
-/

namespace Wangle.Proof.Acceptor
open Wangle.Acceptor Wangle.Intrusive Wangle.Transition ConnectionManager

variable {Conn : Type} [DecidableEq Conn]

def notices (c : Conn) (trace : List (Event Conn)) : List (Event Conn) :=
  trace.filter fun e => e = .notifyPendingShutdown c ∨ e = .closeWhenIdle c

def AtMostOnce (s : ConnectionManager Conn) : Prop :=
  ∀ c, (notices c s.trace).Sublist [.notifyPendingShutdown c, .closeWhenIdle c]

def Noted (c : Conn) (trace : List (Event Conn)) : DrainState → Prop
  | .none => notices c trace = []
  | .sentNotifyPendingShutdown => notices c trace = [.notifyPendingShutdown c]
  | .sentCloseWhenIdle => notices c trace = [.closeWhenIdle c] ∨
      notices c trace = [.notifyPendingShutdown c, .closeWhenIdle c]

def AllNoted (s : ConnectionManager Conn) : Prop := ∀ c, Noted c s.trace (s.drainState c)

def visits (reaction : Reaction Conn) : Nat → List Conn → List Conn
  | 0, _ => []
  | _+1, [] => []
  | n+1, c :: ahead => c :: visits reaction n (ahead.filter (· ∉ reaction c))

def Forces (s : ConnectionManager Conn) (c : Conn) : Op Conn → Prop
  | .initiateGracefulShutdown idleGrace reaction =>
      s.drainHelper.getShutdownState = .none ∧ idleGrace ≤ 0 ∧ c ∈ visits reaction 64 s.conns
  | .drainConnections pct idleGrace reaction =>
      s.drainHelper.getShutdownState = .none ∧ idleGrace ≤ 0 ∧
        c ∈ visits reaction 64 (s.conns.drop (s.conns.length - min s.conns.length (pct s.conns.length)))
  | .runLoopCallback reaction =>
      s.drainHelper.shutdownState = .closeWhenIdle ∧ s.notifyPendingShutdown = false ∧
        c ∈ visits reaction 64 (remaining s)
  | .timeoutExpired reaction =>
      s.drainHelper.shutdownState = .notifyPendingShutdownComplete ∧ s.notifyPendingShutdown = false ∧
        c ∈ visits reaction 64 (drainRange s)
  | .runPendingAdd x _ => c = x ∧ c ∈ s.conns ∧ s.notifyPendingShutdown = false
  | _ => False

def Gentle (s : ConnectionManager Conn) (op : Op Conn) : Prop :=
  ∀ c, Forces s c op → s.drainState c ≠ .sentCloseWhenIdle

/-! ## Notices -/

theorem notices_append (c : Conn) (trace more : List (Event Conn)) :
    notices c (trace ++ more) = notices c trace ++ notices c more := List.filter_append ..

theorem notices_quiet {more : List (Event Conn)} (quiet : ∀ e ∈ more, Quiet e) (c : Conn) :
    notices c more = [] := by
  refine List.filter_eq_nil_iff.mpr fun e member => ?_
  have silent := quiet e member c
  simp [silent.1, silent.2]

theorem Noted.sublist {c : Conn} {trace : List (Event Conn)} {state : DrainState} (noted : Noted c trace state) :
    (notices c trace).Sublist [.notifyPendingShutdown c, .closeWhenIdle c] := by
  cases state with
  | none => rw [show notices c trace = [] from noted]; exact List.nil_sublist _
  | sentNotifyPendingShutdown => rw [show notices c trace = [_] from noted]; simp
  | sentCloseWhenIdle =>
      rcases noted with equal | equal
      · rw [equal]
        simp
      · rw [equal]

theorem Noted.append_quiet {c : Conn} {trace more : List (Event Conn)} {state : DrainState}
    (noted : Noted c trace state) (quiet : notices c more = []) : Noted c (trace ++ more) state := by
  have same : notices c (trace ++ more) = notices c trace := by rw [notices_append, quiet, List.append_nil]
  cases state <;> simpa only [Noted, same] using noted

theorem AllNoted.atMostOnce {s : ConnectionManager Conn} (noted : AllNoted s) : AtMostOnce s :=
  fun c => (noted c).sublist

theorem Quietly.noted {s s' : ConnectionManager Conn} (quietly : Quietly s s') (noted : AllNoted s) :
    AllNoted s' := by
  intro c
  obtain ⟨more, grown, quiet⟩ := quietly.trace
  rw [quietly.drainState, grown]
  exact (noted c).append_quiet (notices_quiet quiet c)

theorem AllNoted.notice {s : ConnectionManager Conn} (noted : AllNoted s) {c : Conn} {e : Event Conn}
    {state : DrainState} (own : e = .notifyPendingShutdown c ∨ e = .closeWhenIdle c)
    (new : Noted c (s.trace ++ [e]) state) : AllNoted (record e (setDrainState c state s)) := by
  intro x
  simp only [record, setDrainState]
  by_cases same : x = c
  · subst same
    rwa [Function.update_self]
  · rw [Function.update_of_ne same]
    refine (noted x).append_quiet ?_
    rcases own with rfl | rfl <;> simp [notices, Ne.symm same]

theorem fireNotifyPendingShutdown_noted {s : ConnectionManager Conn} (noted : AllNoted s)
    (reaction : Reaction Conn) (c : Conn) : AllNoted (s.fireNotifyPendingShutdown reaction c) := by
  unfold fireNotifyPendingShutdown
  split
  · rename_i fresh
    have before := noted c
    rw [fresh] at before
    refine (removeConnections_quietly _ _).noted (noted.notice (.inl rfl) ?_)
    rw [Noted, notices_append, show notices c s.trace = [] from before]
    simp [notices]
  · exact noted

theorem fireCloseWhenIdle_noted {s : ConnectionManager Conn} (noted : AllNoted s) (reaction : Reaction Conn)
    {force : Bool} {c : Conn} (gentle : force = true → s.drainState c ≠ .sentCloseWhenIdle) :
    AllNoted (s.fireCloseWhenIdle reaction force c) := by
  unfold fireCloseWhenIdle
  split
  · rename_i due
    have before := noted c
    refine (removeConnections_quietly _ _).noted (noted.notice (.inr rfl) ?_)
    rw [Noted, notices_append]
    cases state : s.drainState c with
    | none =>
        rw [state] at before
        rw [show notices c s.trace = [] from before]
        simp [notices]
    | sentNotifyPendingShutdown =>
        rw [state] at before
        rw [show notices c s.trace = [_] from before]
        simp [notices]
    | sentCloseWhenIdle =>
        -- only by force
        rcases due with forced | sent
        · exact absurd state (gentle forced)
        · rw [state] at sent
          cases sent
  · exact noted

/-! ## A turn of the drain helper -/

def Forcing (s : ConnectionManager Conn) : Prop :=
  s.drainHelper.shutdownState ≠ .notifyPendingShutdown ∧ s.notifyPendingShutdown = false

theorem drainOne_noted {s : ConnectionManager Conn} (noted : AllNoted s) (reaction : Reaction Conn) {c : Conn}
    (gentle : Forcing s → s.drainState c ≠ .sentCloseWhenIdle) :
    AllNoted (DrainHelper.drainOne reaction c s) := by
  unfold DrainHelper.drainOne
  split
  · exact fireNotifyPendingShutdown_noted noted reaction c
  · rename_i closing
    exact fireCloseWhenIdle_noted noted reaction fun force => gentle ⟨closing, by simpa using force⟩

theorem Forcing.effects {s s' : ConnectionManager Conn} (effects : Effects s s') : Forcing s' ↔ Forcing s := by
  rw [Forcing, Forcing, effects.sameDrain.drainHelper, effects.sameDrain.notifyPendingShutdown]

theorem Looped.noted {reaction : Reaction Conn} {n : Nat} {ahead seen rest : List Conn}
    {s s' : ConnectionManager Conn} (looped : Looped reaction n ahead s seen rest s') (noted : AllNoted s)
    (nodup : seen.Nodup) (gentle : Forcing s → ∀ c ∈ seen, s.drainState c ≠ .sentCloseWhenIdle) : AllNoted s' := by
  induction looped with
  | stop ahead s => exact noted
  | finish n s => exact noted
  | @visit n c tail seen rest s s' further ih =>
      obtain ⟨fresh, nodup⟩ := List.nodup_cons.mp nodup
      have effects := drainOne_effects reaction c s
      refine ih (drainOne_noted noted reaction fun forcing => gentle forcing c List.mem_cons_self) nodup ?_
      intro forcing x member
      have other : x ≠ c := fun same => fresh (same ▸ member)
      rw [drainOne_drainState, Function.update_of_ne other]
      exact gentle ((Forcing.effects effects).mp forcing) x (List.mem_cons_of_mem _ member)

theorem Forcing.drainOne_eq {s : ConnectionManager Conn} (forcing : Forcing s) (reaction : Reaction Conn) (c : Conn) :
    DrainHelper.drainOne reaction c s = s.fireCloseWhenIdle reaction true c := by
  simp [DrainHelper.drainOne, forcing.1, forcing.2]

theorem Looped.seen_eq {reaction : Reaction Conn} {n : Nat} {ahead seen rest : List Conn}
    {s s' : ConnectionManager Conn} (looped : Looped reaction n ahead s seen rest s') (forcing : Forcing s)
    (listed : Listed s) (inside : ahead ⊆ s.conns) : seen = visits reaction n ahead := by
  induction looped with
  | stop ahead s => rfl
  | finish n s => rfl
  | @visit n c tail seen rest s s' further ih =>
      have effects := drainOne_effects reaction c s
      have kept : tail.filter (· ∈ (DrainHelper.drainOne reaction c s).conns) = tail.filter (· ∉ reaction c) := by
        refine List.filter_congr fun x member => ?_
        have managed : x ∈ s.conns := inside (List.mem_cons_of_mem _ member)
        have told : Listed (record (.closeWhenIdle c) (setDrainState c .sentCloseWhenIdle s)) :=
          ⟨listed.nodup, listed.managed⟩
        rw [forcing.drainOne_eq, fireCloseWhenIdle, if_pos (.inl rfl), decide_eq_decide, removeConnections_mem told]
        exact and_iff_right managed
      rw [visits, ← kept]
      refine congrArg _ (ih ((Forcing.effects effects).mpr forcing) (effects.listed listed) ?_)
      exact fun x member => of_decide_eq_true (List.mem_filter.mp member).2

theorem Enters.forces {s entry : ConnectionManager Conn} {op : Op Conn} {reaction : Reaction Conn}
    (enters : Enters s op reaction entry) (nodup : s.conns.Nodup)
    (active : Active entry.drainHelper) (c : Conn) :
    (Forcing entry ∧ c ∈ visits reaction 64 (remaining entry)) ↔ Forces s c op := by
  cases enters with
  | @initiate idleGrace reaction idle =>
      rw [remaining_beginDrain (by exact nodup)]
      by_cases grace : idleGrace > 0
      · simp [Forcing, DrainHelper.beginDrain, Forces, grace, Int.not_le.mpr grace]
      · simp [Forcing, DrainHelper.beginDrain, Forces, grace, idle, drainRange, Int.not_lt.mp grace]
  | @drain pct idleGrace reaction idle =>
      rw [remaining_beginDrain (by exact nodup)]
      by_cases grace : idleGrace > 0
      · simp [Forcing, DrainHelper.beginDrain, Forces, grace, Int.not_le.mpr grace]
      · simp [Forcing, DrainHelper.beginDrain, Forces, grace, idle, drainRange, Int.not_lt.mp grace]
  | loop scheduled =>
      have closing : s.drainHelper.shutdownState ≠ .notifyPendingShutdown ↔
          s.drainHelper.shutdownState = .closeWhenIdle := by
        rcases active with state | state <;> simp only at state <;> simp [state]
      simp only [Forcing, Forces, closing, and_assoc]
      exact Iff.rfl
  | timeout scheduled complete =>
      simp only [Forcing, Forces, complete, remaining, onward_drainStartIterator nodup]
      simp

/-! ## Forced notifications -/

theorem fireCloseWhenIdle_forced (reaction : Reaction Conn) (c : Conn) (s : ConnectionManager Conn) :
    ∃ more, (s.fireCloseWhenIdle reaction true c).trace = s.trace ++ more ∧ .closeWhenIdle c ∈ more := by
  obtain ⟨more, grown, -⟩ := (removeConnections_quietly (reaction c)
    (record (.closeWhenIdle c) (setDrainState c .sentCloseWhenIdle s))).trace
  refine ⟨.closeWhenIdle c :: more, ?_, by simp⟩
  rw [fireCloseWhenIdle, if_pos (.inl rfl), grown]
  simp [record, setDrainState]

theorem Looped.forced {reaction : Reaction Conn} {n : Nat} {ahead seen rest : List Conn}
    {s s' : ConnectionManager Conn} (looped : Looped reaction n ahead s seen rest s') (forcing : Forcing s) {c : Conn}
    (member : c ∈ seen) : ∃ more, s'.trace = s.trace ++ more ∧ .closeWhenIdle c ∈ more := by
  induction looped with
  | stop ahead s => cases member
  | finish n s => cases member
  | @visit n x tail seen rest s s' further ih =>
      have effects := drainOne_effects reaction x s
      rcases List.mem_cons.mp member with rfl | later
      · obtain ⟨first, grown, recorded⟩ := fireCloseWhenIdle_forced reaction c s
        obtain ⟨more, rest⟩ := further.effects.changes.trace
        rw [forcing.drainOne_eq, grown, List.append_assoc] at rest
        exact ⟨first ++ more, rest.symm, List.mem_append_left _ recorded⟩
      · obtain ⟨first, grown⟩ := effects.changes.trace
        obtain ⟨more, rest, recorded⟩ := ih ((Forcing.effects effects).mpr forcing) later
        exact ⟨first ++ more, by rw [rest, ← grown, List.append_assoc], List.mem_append_right _ recorded⟩

theorem step_forced {s s' : ConnectionManager Conn} {op : Op Conn} {c : Conn} (wf : WellFormed s)
    (forces : Forces s c op) (taken : s.step op = .ok s') :
    ∃ more, s'.trace = s.trace ++ more ∧ .closeWhenIdle c ∈ more := by
  cases stepCase taken with
  | @turn op reaction entry s' enters done =>
      have wf' := enters.wellFormed wf
      obtain ⟨active, seen, rest, m, looped, -, finished⟩ := drainConnections_ok wf' done
      obtain ⟨forcing, member⟩ := (enters.forces wf.nodup active c).mpr forces
      rw [← looped.seen_eq forcing wf'.toListed (onward_sublist _ _).subset] at member
      obtain ⟨before, grown, -⟩ := enters.quietly.trace
      obtain ⟨more, looped, recorded⟩ := looped.forced forcing member
      refine ⟨before ++ more, ?_, List.mem_append_right _ recorded⟩
      rw [finished.same.2.2.1, looped, grown, List.append_assoc]
  | initiateIgnored busy => exact absurd forces.1 busy
  | drainIgnored busy => exact absurd forces.1 busy
  | timeoutIgnored early => exact absurd forces.1 early
  | @pendingAdd x reaction pending linked =>
      obtain ⟨rfl, -, forcing⟩ := forces
      rw [forcing]
      exact fireCloseWhenIdle_forced reaction c (linkedAdd s c)
  | pendingAddUnlinked pending unlinked => exact absurd (forces.1 ▸ forces.2.1) unlinked
  | add => exact forces.elim
  | remove => exact forces.elim
  | activate member => exact forces.elim
  | deactivate member => exact forces.elim
  | dropConnections => exact forces.elim
  | dropAll => exact forces.elim
  | dropIdle => exact forces.elim

/-! ## Every step -/

theorem step_noted {s s' : ConnectionManager Conn} {op : Op Conn} (wf : WellFormed s) (noted : AllNoted s)
    (gentle : Gentle s op) (taken : s.step op = .ok s') : AllNoted s' := by
  cases stepCase taken with
  | @turn op reaction entry s' enters done =>
      have wf' := enters.wellFormed wf
      obtain ⟨active, seen, rest, m, looped, drained, finished⟩ := drainConnections_ok wf' done
      refine finished.quietly.noted (looped.noted (enters.quietly.noted noted) drained.seen_nodup ?_)
      intro forcing c member
      rw [looped.seen_eq forcing wf'.toListed (onward_sublist _ _).subset] at member
      rw [enters.quietly.drainState]
      exact gentle c ((enters.forces wf.nodup active c).mp ⟨forcing, member⟩)
  | initiateIgnored busy => exact noted
  | drainIgnored busy => exact noted
  | timeoutIgnored early => exact noted
  | @add c reaction =>
      have inserted_noted := (inserted_quietly c s).noted noted
      refine (addConnection_quietly reaction c s).noted ?_
      unfold greeted
      split
      · exact fireNotifyPendingShutdown_noted inserted_noted reaction c
      · exact inserted_noted
  | remove => exact (removeConnection_quietly _ s).noted noted
  | @activate c member => exact Quietly.noted (s := s) ⟨rfl, [.activated c], rfl, by simp [Quiet]⟩ noted
  | @deactivate c member => exact Quietly.noted (s := s) ⟨rfl, [.deactivated c], rfl, by simp [Quiet]⟩ noted
  | @pendingAdd c reaction pending linked =>
      refine fireCloseWhenIdle_noted (s := linkedAdd s c) noted reaction fun force => ?_
      exact gentle c ⟨rfl, linked, by simpa using force⟩
  | pendingAddUnlinked pending unlinked => exact noted
  | dropConnections => exact (dropConnections_quietly _ _ s).noted noted
  | dropAll => exact (dropAllConnections_quietly _ s).noted noted
  | dropIdle => exact (dropIdleConnections_quietly _ _ _ s).noted noted

theorem closeWhenIdle_twice {c : Conn} {trace more : List (Event Conn)} (before : .closeWhenIdle c ∈ trace)
    (again : .closeWhenIdle c ∈ more) :
    ¬ (notices c (trace ++ more)).Sublist [.notifyPendingShutdown c, .closeWhenIdle c] := by
  intro sublist
  have first : 0 < (notices c trace).count (.closeWhenIdle c) :=
    List.count_pos_iff.mpr (List.mem_filter.mpr ⟨before, by simp⟩)
  have second : 0 < (notices c more).count (.closeWhenIdle c) :=
    List.count_pos_iff.mpr (List.mem_filter.mpr ⟨again, by simp⟩)
  have once := sublist.count_le (.closeWhenIdle c)
  rw [notices_append, List.count_append] at once
  simp only [List.count_cons, List.count_nil] at once
  simp at once
  omega

theorem AllNoted.closed {s : ConnectionManager Conn} (noted : AllNoted s) {c : Conn}
    (sent : s.drainState c = .sentCloseWhenIdle) : .closeWhenIdle c ∈ s.trace := by
  have notice := noted c
  rw [sent] at notice
  have member : .closeWhenIdle c ∈ notices c s.trace := by
    rcases notice with equal | equal <;> simp [equal]
  exact (List.mem_filter.mp member).1

/-- A run notifies every connection at most once, and in order, just if it never forces `closeWhenIdle`
on a connection that has received it. -/
theorem run_atMostOnce_iff (timeout : Int) (hasCallback : Bool) (ops : List (Op Conn)) (s : ConnectionManager Conn)
    (done : (init timeout hasCallback).run ops = .ok s) :
    AtMostOnce s ↔ Along step Gentle (init timeout hasCallback) ops := by
  have kept : ∀ (m : ConnectionManager Conn) op m', WellFormed m ∧ AllNoted m → Gentle m op →
      m.step op = .ok m' → WellFormed m' ∧ AllNoted m' :=
    fun m op m' holds gentle taken => ⟨step_wellFormed holds.1 taken, step_noted holds.1 holds.2 gentle taken⟩
  have start : WellFormed (init timeout hasCallback : ConnectionManager Conn) ∧
      AllNoted (init timeout hasCallback : ConnectionManager Conn) :=
    ⟨init_wellFormed timeout hasCallback, fun c => rfl⟩
  constructor
  · intro once
    refine along_of_not_bad (B := fun s => WellFormed s ∧ ¬ AtMostOnce s) kept ?_ ?_ start done
      fun bad => bad.2 once
    · intro m op m' holds harsh taken
      refine ⟨step_wellFormed holds.1 taken, fun once => ?_⟩
      simp only [Gentle, not_forall, not_not] at harsh
      obtain ⟨c, forces, sent⟩ := harsh
      obtain ⟨more, grown, recorded⟩ := step_forced holds.1 forces taken
      exact closeWhenIdle_twice (holds.2.closed sent) recorded (grown ▸ once c)
    · intro m op m' bad taken
      refine ⟨step_wellFormed bad.1 taken, fun once => bad.2 fun c => ?_⟩
      exact ((step_changes bad.1 taken).trace.sublist.filter _).trans (once c)
  · intro gentle
    exact (run_invariant kept start gentle done).2.atMostOnce

theorem run_atMostOnce_iff_shutdown :
    ∃ s : ConnectionManager Nat, (init 0 false).run
        [.addConnection 1 fun _ => [], .initiateGracefulShutdown 0 fun _ => [], .addConnection 2 fun _ => [],
          .runPendingAdd 2 fun _ => []] = .ok s ∧
      (AtMostOnce s ↔ Along step Gentle (init 0 false)
        [.addConnection 1 fun _ => [], .initiateGracefulShutdown 0 fun _ => [], .addConnection 2 fun _ => [],
          .runPendingAdd 2 fun _ => []]) :=
  ⟨_, rfl, run_atMostOnce_iff 0 false _ _ rfl⟩

theorem second_drain_repeats_closeWhenIdle :
    ∃ s : ConnectionManager Nat, (init 0 false).run
        [.addConnection 1 fun _ => [], .drainConnections id 0 fun _ => [],
          .initiateGracefulShutdown 0 fun _ => []] = .ok s ∧ ¬ AtMostOnce s :=
  ⟨_, rfl, fun once => absurd (once 1) (by decide)⟩

end Wangle.Proof.Acceptor
