import Wangle.Proof.Acceptor.Traces

/-!
# The progress of a drain
-/

namespace Wangle.Proof.Acceptor
open Wangle.Acceptor Wangle.Intrusive ConnectionManager

variable {Conn : Type} [DecidableEq Conn]

/-! ## What the iterator has still before it -/

theorem remaining_subset {s : ConnectionManager Conn} {c : Conn} (member : c ∈ remaining s) : c ∈ s.conns :=
  (onward_sublist _ _).subset member

theorem mem_remaining {s : ConnectionManager Conn} (wf : WellFormed s) {c : Conn} (member : c ∈ remaining s) :
    s.drainIterator = some c ∨ c ∈ (remaining s).tail := by
  obtain ⟨before, divides⟩ := exists_divides wf.drain
  have stands : s.drainIterator = (remaining s).head? := divides.stands
  cases ahead : remaining s with
  | nil =>
      rw [ahead] at member
      cases member
  | cons x rest =>
      rw [ahead] at member stands
      exact (List.mem_cons.mp member).imp (fun same => by rw [stands, same, List.head?_cons]) id

theorem mem_remaining_of_start {s s' : ConnectionManager Conn} {c : Conn} (member : c ∈ s.conns)
    (nodup : s.conns.Nodup) (full : s.drainHelper.all = true)
    (start : s'.drainIterator = DrainHelper.drainStartIterator s) (conns : s'.conns = s.conns) :
    c ∈ remaining s' := by
  rwa [remaining, start, conns, onward_drainStartIterator nodup, drainRange, if_pos full]

theorem removeConnection_remaining {s : ConnectionManager Conn} (wf : WellFormed s) (c : Conn) :
    remaining (s.removeConnection c) = (remaining s).erase c := by
  cases managed : s.isManaged c with
  | false =>
      have absent : c ∉ s.conns := by
        intro member
        rw [(wf.managed c).mpr member] at managed
        cases managed
      rw [removeConnection_of_not_managed managed,
        List.erase_of_not_mem fun member => absent (remaining_subset member)]
  | true =>
      obtain ⟨calls, equal, -⟩ := removeConnection_eq managed
      obtain ⟨before, divides⟩ := exists_divides wf.drain
      rw [equal]
      exact (divides.erase wf.nodup c).onward_eq (wf.nodup.erase c)

theorem Effects.remaining {s s' : ConnectionManager Conn} (effects : Effects s s') (wf : WellFormed s) {c : Conn}
    (member : c ∈ remaining s) (kept : c ∈ s'.conns) : c ∈ Acceptor.remaining s' := by
  induction effects with
  | refl => exact member
  | @tail m s' before effect ih =>
      have wf' := Effects.wellFormed before wf
      have ahead := ih (effect.conns_sublist.subset kept)
      cases effect with
      | remove x managed =>
          rw [removeConnection_conns wf'.toListed, wf'.nodup.mem_erase_iff] at kept
          rw [removeConnection_remaining wf']
          exact (List.mem_erase_of_ne kept.1).mpr ahead
      | notify x fresh => exact ahead
      | close x due => exact ahead
      | drop x => exact ahead

/-! ## Drain states only advance -/

structure Advances (before after : DrainState) : Prop where
  sent : before ≠ .none → after ≠ .none
  closed : before = .sentCloseWhenIdle → after = .sentCloseWhenIdle

theorem Advances.refl (state : DrainState) : Advances state state := ⟨id, id⟩

theorem Advances.trans {before middle after : DrainState} (first : Advances before middle)
    (second : Advances middle after) : Advances before after :=
  ⟨second.sent ∘ first.sent, second.closed ∘ first.closed⟩

theorem Change.advances {s s' : ConnectionManager Conn} (change : Change s s') (c : Conn) :
    Advances (s.drainState c) (s'.drainState c) := by
  cases change with
  | quiet quietly =>
      rw [quietly.drainState]
      exact .refl _
  | effect effect =>
      cases effect with
      | remove x managed =>
          rw [removeConnection_drainState]
          exact .refl _
      | notify x fresh =>
          by_cases same : c = x
          · subst same
            simp [record, setDrainState, fresh, Advances.mk]
          · simp [record, setDrainState, same, Advances.refl]
      | close x due =>
          by_cases same : c = x
          · subst same
            simp [record, setDrainState, Advances.mk]
          · simp [record, setDrainState, same, Advances.refl]
      | drop x => exact .refl _

theorem Changes.advances {s s' : ConnectionManager Conn} (changes : Changes s s') (c : Conn) :
    Advances (s.drainState c) (s'.drainState c) := by
  induction changes with
  | refl => exact .refl _
  | tail _ change ih => exact ih.trans (change.advances c)

theorem Effects.advances {s s' : ConnectionManager Conn} (effects : Effects s s') (c : Conn) :
    Advances (s.drainState c) (s'.drainState c) := effects.changes.advances c

theorem Change.notified {s s' : ConnectionManager Conn} (change : Change s s') (c : Conn) :
    ∃ more, s'.trace = s.trace ++ more ∧
      (.notifyPendingShutdown c ∈ more → s.drainState c = .none ∧ s'.drainState c ≠ .none) := by
  have quiet (quietly : Quietly s s') : ∃ more, s'.trace = s.trace ++ more ∧
      (.notifyPendingShutdown c ∈ more → s.drainState c = .none ∧ s'.drainState c ≠ .none) := by
    obtain ⟨more, grown, silent⟩ := quietly.trace
    exact ⟨more, grown, fun member => absurd rfl (silent _ member c).1⟩
  cases change with
  | quiet quietly => exact quiet quietly
  | effect effect =>
      cases effect with
      | remove x managed => exact quiet (removeConnection_quietly x s)
      | notify x fresh =>
          refine ⟨[.notifyPendingShutdown x], rfl, fun member => ?_⟩
          obtain rfl : c = x := by simpa using member
          exact ⟨fresh, by simp [record, setDrainState]⟩
      | close x due => exact ⟨[.closeWhenIdle x], rfl, by simp⟩
      | drop x => exact ⟨[.dropConnection x], rfl, by simp⟩

theorem Changes.notified {s s' : ConnectionManager Conn} (changes : Changes s s') (c : Conn) :
    ∃ more, s'.trace = s.trace ++ more ∧
      (.notifyPendingShutdown c ∈ more → s.drainState c = .none ∧ s'.drainState c ≠ .none) := by
  induction changes with
  | refl => exact ⟨[], (List.append_nil _).symm, by simp⟩
  | tail before change ih =>
      obtain ⟨more, grown, earlier⟩ := ih
      obtain ⟨more', grown', later⟩ := change.notified c
      refine ⟨more ++ more', by rw [grown', grown, List.append_assoc], fun member => ?_⟩
      rcases List.mem_append.mp member with old | new
      · exact ⟨(earlier old).1, (change.advances c).sent (earlier old).2⟩
      · refine ⟨?_, (later new).2⟩
        by_contra sent
        exact (Changes.advances before c).sent sent (later new).1

theorem fireNotifyPendingShutdown_sent (reaction : Reaction Conn) (c : Conn) (s : ConnectionManager Conn) :
    (s.fireNotifyPendingShutdown reaction c).drainState c ≠ .none := by
  unfold fireNotifyPendingShutdown
  split
  · simp [removeConnections_drainState, record, setDrainState]
  · assumption

/-! ## Who is ready to be told to close -/

def Ready (s : ConnectionManager Conn) (c : Conn) : Prop :=
  s.notifyPendingShutdown = false ∨ s.drainState c ≠ .none

omit [DecidableEq Conn] in
theorem Ready.cases {s : ConnectionManager Conn} {c : Conn} (ready : Ready s c) :
    s.drainState c = .sentCloseWhenIdle ∨ s.notifyPendingShutdown = false ∨
      s.drainState c = .sentNotifyPendingShutdown := by
  rcases ready with force | sent
  · exact .inr (.inl force)
  · cases state : s.drainState c with
    | none => exact absurd state sent
    | sentNotifyPendingShutdown => exact .inr (.inr rfl)
    | sentCloseWhenIdle => exact .inl rfl

omit [DecidableEq Conn] in
theorem Ready.mono {s s' : ConnectionManager Conn} {c : Conn} (ready : Ready s c)
    (flag : s.notifyPendingShutdown = false → s'.notifyPendingShutdown = false)
    (advances : Advances (s.drainState c) (s'.drainState c)) : Ready s' c :=
  ready.imp flag advances.sent

theorem fireCloseWhenIdle_closed (reaction : Reaction Conn) {c : Conn} {s : ConnectionManager Conn}
    (ready : Ready s c) :
    (s.fireCloseWhenIdle reaction (!s.notifyPendingShutdown) c).drainState c = .sentCloseWhenIdle := by
  rcases ready.cases with closed | due
  · exact ((fireCloseWhenIdle_effects reaction c s).advances c).closed closed
  · rw [fireCloseWhenIdle, if_pos (by simpa using due), removeConnections_drainState]
    simp [record, setDrainState]

omit [DecidableEq Conn] in
theorem visited_ne_none {s : ConnectionManager Conn} {state : DrainState}
    (notifying : s.drainHelper.shutdownState = .notifyPendingShutdown) : visited s state ≠ .none := by
  cases state <;> simp [visited, notifying]

omit [DecidableEq Conn] in
theorem visited_closed {s : ConnectionManager Conn} {c : Conn} (ready : Ready s c)
    (closing : s.drainHelper.shutdownState = .closeWhenIdle) : visited s (s.drainState c) = .sentCloseWhenIdle := by
  simp only [visited, closing, reduceCtorEq, if_false]
  rcases ready.cases with closed | due
  · simp [closed]
  · rw [if_pos due]

end Wangle.Proof.Acceptor
