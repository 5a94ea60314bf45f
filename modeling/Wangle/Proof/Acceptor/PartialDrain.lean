import Wangle.Proof.Acceptor.Progress

/-!
# The connections that a partial drain closes
-/

namespace Wangle.Proof.Acceptor
open Wangle.Acceptor Wangle.Intrusive Wangle.Transition ConnectionManager

variable {Conn : Type} [DecidableEq Conn]

def NotifyPass (s : ConnectionManager Conn) : Op Conn → Prop
  | .runLoopCallback _ => s.drainHelper.shutdownState = .notifyPendingShutdown
  | .timeoutExpired _ => s.drainHelper.shutdownState = .notifyPendingShutdown
  | _ => False

def BetweenPasses (_ : ConnectionManager Conn) : Op Conn → Prop
  | .addConnection _ _ => True
  | .removeConnection _ => True
  | .onActivated _ => True
  | .onDeactivated _ => True
  | _ => False

def ClosePass (s : ConnectionManager Conn) : Op Conn → Prop
  | .timeoutExpired _ => s.drainHelper.shutdownState = .notifyPendingShutdownComplete
  | .runLoopCallback _ => s.drainHelper.shutdownState = .closeWhenIdle
  | _ => False

def closeRange (s : ConnectionManager Conn) : List Conn :=
  match s.drainHelper.shutdownState with
  | .notifyPendingShutdownComplete => drainRange s
  | .closeWhenIdle => remaining s
  | _ => []

theorem run_changes {s s' : ConnectionManager Conn} {ops : List (Op Conn)} (wf : WellFormed s)
    (done : s.run ops = .ok s') : WellFormed s' ∧ Changes s s' := by
  refine run_invariant_all (I := fun m => WellFormed m ∧ Changes s m) ?_ ⟨wf, .refl⟩ done
  exact fun m op m' holds taken => ⟨step_wellFormed holds.1 taken, holds.2.trans (step_changes holds.1 taken)⟩

/-! ## The notify pass -/

theorem drainConnections_notifies {reaction : Reaction Conn} {entry s' : ConnectionManager Conn} {c : Conn}
    (wf : WellFormed entry) (done : DrainHelper.drainConnections reaction entry = .ok s')
    (notifying : entry.drainHelper.shutdownState = .notifyPendingShutdown)
    (spared : entry.drainState c ≠ .sentCloseWhenIdle) :
    s'.drainHelper.all = entry.drainHelper.all ∧ s'.drainState c ≠ .sentCloseWhenIdle := by
  obtain ⟨-, seen, rest, m, -, drained, finished⟩ := drainConnections_ok wf done
  constructor
  · rw [← drained.effects.sameDrain.drainHelper]
    cases finished <;> rfl
  · rw [finished.same.2.1]
    by_cases visit : c ∈ seen
    · rw [drained.drainState_seen c visit, visited, if_pos notifying]
      split
      · simp
      · exact spared
    · rwa [drained.drainState_other c visit]

theorem step_notifyPass {s s' : ConnectionManager Conn} {op : Op Conn} {c : Conn} (wf : WellFormed s)
    (permitted : NotifyPass s op) (taken : s.step op = .ok s') (spared : s.drainState c ≠ .sentCloseWhenIdle) :
    s'.drainHelper.all = s.drainHelper.all ∧ s'.drainState c ≠ .sentCloseWhenIdle := by
  cases stepCase taken with
  | turn enters done =>
      have wf' := enters.wellFormed wf
      cases enters with
      | initiate idle => exact permitted.elim
      | drain idle => exact permitted.elim
      | loop scheduled =>
          have turn := drainConnections_notifies (c := c) wf' done permitted spared
          exact turn
      | timeout scheduled complete =>
          rw [NotifyPass, complete] at permitted
          cases permitted
  | timeoutIgnored early => exact ⟨rfl, spared⟩
  | _ => exact permitted.elim

/-! ## Between the passes -/

theorem addConnection_of_idle {s : ConnectionManager Conn} (idle : s.drainHelper.getShutdownState = .none)
    (reaction : Reaction Conn) (c : Conn) : s.addConnection reaction c = inserted c s := by
  have none : (inserted c s).drainHelper.getShutdownState = .none := by
    rw [(inserted_sameDrain c s).drainHelper, idle]
  have ungreeted : greeted reaction c s = inserted c s := by
    rw [greeted, none, if_neg]
    exact fun draining => absurd draining.1 (by decide)
  rw [addConnection_eq, ungreeted, none, if_neg (by decide)]

theorem step_betweenPasses {s s' : ConnectionManager Conn} {op : Op Conn} (partially : s.drainHelper.all = false)
    (permitted : BetweenPasses s op) (taken : s.step op = .ok s') :
    s'.drainHelper = s.drainHelper ∧ s'.drainState = s.drainState := by
  cases stepCase taken with
  | @add c reaction =>
      rw [addConnection_of_idle (by simp [DrainHelper.getShutdownState, partially])]
      exact ⟨(inserted_sameDrain c s).drainHelper, (inserted_quietly c s).drainState⟩
  | @remove c => exact ⟨(removeConnection_effects c s).sameDrain.drainHelper, removeConnection_drainState c s⟩
  | activate member => exact ⟨rfl, rfl⟩
  | deactivate member => exact ⟨rfl, rfl⟩
  | turn enters done => cases enters <;> exact permitted.elim
  | _ => exact permitted.elim

/-! ## The close pass -/

def Closing (s : ConnectionManager Conn) (c : Conn) : Prop :=
  s.drainState c = .sentCloseWhenIdle ∨ c ∈ closeRange s

theorem Finished.closeRange {rest before : List Conn} {m s' : ConnectionManager Conn}
    (finished : Finished rest m s') (closing : m.drainHelper.shutdownState = .closeWhenIdle)
    (nodup : m.conns.Nodup) (eq : m.conns = before ++ rest) : Acceptor.closeRange s' = rest := by
  cases finished with
  | more left =>
      simp only [Acceptor.closeRange, closing]
      exact (Divides.mk eq rfl).onward_eq nodup
  | notified empty notifying waiting =>
      rw [closing] at notifying
      cases notifying
  | expired empty notifying late =>
      rw [closing] at notifying
      cases notifying
  | closed empty excess => exact empty.symm

theorem drainConnections_closing {reaction : Reaction Conn} {entry s' : ConnectionManager Conn} {c : Conn}
    (wf : WellFormed entry) (done : DrainHelper.drainConnections reaction entry = .ok s')
    (closing : entry.drainHelper.shutdownState = .closeWhenIdle) (sent : entry.drainState c ≠ .none)
    (member : c ∈ s'.conns) : c ∈ entry.conns ∧ (Closing s' c ↔ Closing entry c) := by
  obtain ⟨-, seen, rest, m, -, drained, finished⟩ := drainConnections_ok wf done
  obtain ⟨conns, states, -⟩ := finished.same
  obtain ⟨before, eq⟩ := drained.conns
  have range := finished.closeRange (by rw [drained.effects.sameDrain.drainHelper, closing])
    (drained.effects.wellFormed wf).nodup eq
  have entered : closeRange entry = remaining entry := by simp only [closeRange, closing]
  rw [conns] at member
  refine ⟨drained.effects.conns_sublist.subset member, ?_⟩
  rw [Closing, Closing, range, entered, states]
  by_cases visit : c ∈ seen
  · have told := drained.drainState_seen c visit
    rw [visited_closed (.inr sent) closing] at told
    simp [told, drained.seen_subset visit]
  · rw [drained.drainState_other c visit]
    exact or_congr_right
      ⟨fun left => drained.rest_subset left, fun ahead => (drained.covers c ahead member).resolve_left visit⟩

theorem step_closePass {s s' : ConnectionManager Conn} {op : Op Conn} {c : Conn} (wf : WellFormed s)
    (permitted : ClosePass s op) (taken : s.step op = .ok s') (sent : s.drainState c ≠ .none)
    (member : c ∈ s'.conns) : c ∈ s.conns ∧ (Closing s' c ↔ Closing s c) := by
  cases stepCase taken with
  | turn enters done =>
      have wf' := enters.wellFormed wf
      cases enters with
      | initiate idle => exact permitted.elim
      | drain idle => exact permitted.elim
      | loop scheduled =>
          have turn := drainConnections_closing (c := c) wf' done permitted sent member
          exact turn
      | timeout scheduled complete =>
          have turn := drainConnections_closing (c := c) wf' done rfl sent member
          simpa only [Closing, closeRange, complete, remaining, onward_drainStartIterator wf.nodup] using turn
  | timeoutIgnored early => exact absurd permitted early
  | _ => exact permitted.elim

/-! ## The whole drain -/

theorem partialDrain_started {s s₀ : ConnectionManager Conn} {pct : Nat → Nat} {idleGrace : Int}
    {reaction : Reaction Conn} {c : Conn} (wf : WellFormed s) (idle : s.drainHelper.getShutdownState = .none)
    (grace : idleGrace > 0) (started : s.step (.drainConnections pct idleGrace reaction) = .ok s₀)
    (spared : s.drainState c ≠ .sentCloseWhenIdle) :
    s₀.drainHelper.all = false ∧ s₀.drainState c ≠ .sentCloseWhenIdle := by
  cases stepCase started with
  | turn enters done =>
      have wf' := enters.wellFormed wf
      cases enters with
      | drain _ =>
          rw [beginDrain_of_grace grace] at wf' done
          exact drainConnections_notifies wf' done rfl spared
  | drainIgnored busy => exact absurd idle busy

/-- Of the connections that a partial drain has notified and that are still managed, it has told just those
to close that its close pass had before it, whatever was added, removed or moved before this pass. -/
theorem partialDrain_closes_iff (timeout : Int) (hasCallback : Bool) (before notify between close : List (Op Conn))
    (pct : Nat → Nat) (idleGrace : Int) (reaction : Reaction Conn) (s s₀ s₁ s₂ s₃ : ConnectionManager Conn)
    (reached : (init timeout hasCallback).run before = .ok s)
    (idle : s.drainHelper.getShutdownState = .none) (grace : idleGrace > 0)
    (started : s.step (.drainConnections pct idleGrace reaction) = .ok s₀)
    (notifyPass : Along step NotifyPass s₀ notify) (notified : s₀.run notify = .ok s₁)
    (betweenPasses : Along step BetweenPasses s₁ between) (moved : s₁.run between = .ok s₂)
    (closePass : Along step ClosePass s₂ close) (closed : s₂.run close = .ok s₃)
    (complete : s₃.drainHelper.shutdownState = .closeWhenIdleComplete)
    (c : Conn) (told : .notifyPendingShutdown c ∈ s₁.trace.drop s.trace.length) (member : c ∈ s₃.conns) :
    .closeWhenIdle c ∈ s₃.trace ↔ c ∈ closeRange s₂ := by
  obtain ⟨wf, earlier⟩ := run_changes (init_wellFormed timeout hasCallback) reached
  have wf₀ := step_wellFormed wf started
  obtain ⟨wf₁, notifying⟩ := run_changes wf₀ notified
  obtain ⟨wf₂, moving⟩ := run_changes wf₁ moved
  obtain ⟨-, closing⟩ := run_changes wf₂ closed
  have draining : Changes s s₁ := (step_changes wf started).trans notifying
  have whole : Changes (init timeout hasCallback) s₃ := (earlier.trans draining).trans (moving.trans closing)
  have recorded := whole.recorded (init_recorded timeout hasCallback)
  obtain ⟨more, grown, fresh⟩ := draining.notified c
  rw [grown, List.drop_left] at told
  obtain ⟨unsent, sent⟩ := fresh told
  have started := partialDrain_started (c := c) wf idle grace started (by rw [unsent]; decide)
  obtain ⟨-, partially, spared⟩ :
      WellFormed s₁ ∧ s₁.drainHelper.all = false ∧ s₁.drainState c ≠ .sentCloseWhenIdle := by
    refine run_invariant (P := NotifyPass)
      (I := fun m => WellFormed m ∧ m.drainHelper.all = false ∧ m.drainState c ≠ .sentCloseWhenIdle) ?_
      ⟨wf₀, started⟩ notifyPass notified
    rintro m op m' ⟨wf, partially, spared⟩ permitted taken
    obtain ⟨all, spared'⟩ := step_notifyPass wf permitted taken spared
    exact ⟨step_wellFormed wf taken, all.trans partially, spared'⟩
  obtain ⟨-, states⟩ : s₂.drainHelper = s₁.drainHelper ∧ s₂.drainState = s₁.drainState := by
    refine run_invariant (P := BetweenPasses)
      (I := fun m => m.drainHelper = s₁.drainHelper ∧ m.drainState = s₁.drainState) ?_
      ⟨rfl, rfl⟩ betweenPasses moved
    rintro m op m' ⟨helper, states⟩ permitted taken
    have kept := step_betweenPasses (by rw [helper, partially]) permitted taken
    exact ⟨kept.1.trans helper, kept.2.trans states⟩
  obtain ⟨-, -, exactly⟩ :
      WellFormed s₃ ∧ s₃.drainState c ≠ .none ∧ (c ∈ s₃.conns → (Closing s₃ c ↔ c ∈ closeRange s₂)) := by
    refine run_invariant (P := ClosePass)
      (I := fun m => WellFormed m ∧ m.drainState c ≠ .none ∧ (c ∈ m.conns → (Closing m c ↔ c ∈ closeRange s₂))) ?_
      ⟨wf₂, by rwa [states], by simp [Closing, states, spared]⟩ closePass closed
    rintro m op m' ⟨wf, sent, exactly⟩ permitted taken
    refine ⟨step_wellFormed wf taken, ((step_changes wf taken).advances c).sent sent, fun member => ?_⟩
    obtain ⟨managed, turn⟩ := step_closePass wf permitted taken sent member
    exact turn.trans (exactly managed)
  rw [recorded c, ← exactly member]
  simp [Closing, closeRange, complete]

theorem partialDrain_closes_iff_half :
    ∃ s s₁ s₂ s₃ : ConnectionManager Nat,
      (init 0 false).run [.addConnection 1 fun _ => [], .addConnection 2 fun _ => []] = .ok s ∧
      s.step (.drainConnections (· / 2) 50 fun _ => []) = .ok s₁ ∧
      s₁.run [.addConnection 3 fun _ => []] = .ok s₂ ∧ s₂.run [.timeoutExpired fun _ => []] = .ok s₃ ∧
      (.closeWhenIdle 1 ∈ s₃.trace ↔ 1 ∈ closeRange s₂) := by
  refine ⟨_, _, _, _, rfl, rfl, rfl, rfl, ?_⟩
  exact partialDrain_closes_iff 0 false [.addConnection 1 fun _ => [], .addConnection 2 fun _ => []] []
    [.addConnection 3 fun _ => []] [.timeoutExpired fun _ => []] (· / 2) 50 (fun _ => []) _ _ _ _ _ rfl rfl
    (by decide) rfl trivial rfl ⟨trivial, fun _ _ => trivial⟩ rfl
    (by exact ⟨rfl, fun _ _ => trivial⟩) rfl rfl 1 (by decide) (by decide)

theorem activation_escapes_partialDrain :
    ∃ s : ConnectionManager Nat, (init 0 false).run
        [.addConnection 1 fun _ => [], .addConnection 2 fun _ => [], .drainConnections (· / 2) 50 fun _ => [],
          .onActivated 1, .timeoutExpired fun _ => []] = .ok s ∧
      s.drainHelper.shutdownState = .closeWhenIdleComplete ∧ 1 ∈ s.conns ∧
        .notifyPendingShutdown 1 ∈ s.trace ∧ .closeWhenIdle 1 ∉ s.trace :=
  Ends.exists_ok (by decide +kernel)

end Wangle.Proof.Acceptor
