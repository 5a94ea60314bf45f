import Wangle.Service.ExpiringFilter

/-!
# When the idle timer runs

`requests_` counts the requests that are active: those whose future has been returned and is not completed, and
those for which the wrapped service is being called. A call that throws is never taken off the counter.
-/

namespace Wangle.Proof.Service
open Wangle.Service ExpiringFilter
open Wangle.Transition hiding run

variable {s s' : ExpiringFilter} {op : ExpiringFilter.Op}

structure IdleAccounted (s : ExpiringFilter) : Prop where
  counted : s.requests.toNat = s.active
  armed : s.idleTimeout = .pending → s.active = 0
  single : s.abandoned = 0
  closed : ∀ n, (Closer.idleTimer, n) ∈ s.closed → n = 0

def Rearmed (s s' : ExpiringFilter) : Prop :=
  0 < s'.idleTimeoutTime → s.active ≠ 0 → s'.active = 0 → s'.idleTimeout = .pending

/-- The wrapped service does not throw, and fewer than `2 ^ 32` requests are active. -/
def Countable (s : ExpiringFilter) : ExpiringFilter.Op → Prop
  | .request => s.active + 1 < 4294967296
  | .answered .threw => s.calling = []
  | _ => True

theorem startIdleTimer_accounted (counted : s.requests.toNat = s.active) (ready : s.idleTimeout = .ready)
    (single : s.abandoned = 0) (closed : ∀ n, (Closer.idleTimer, n) ∈ s.closed → n = 0) :
    IdleAccounted s.startIdleTimer ∧
      (0 < s.idleTimeoutTime → s.active = 0 → s.startIdleTimer.idleTimeout = .pending) := by
  have zero : s.requests = 0 ↔ s.active = 0 := by
    rw [← counted, ← UInt32.toNat_inj]
    rfl
  unfold startIdleTimer
  split
  · rename_i nonzero
    refine ⟨⟨counted, ?_, single, closed⟩, fun _ none => absurd (zero.mpr none) nonzero⟩
    simp [ready]
  · rename_i none
    have none : s.active = 0 := zero.mp (Decidable.not_not.mp none)
    split
    · refine ⟨⟨counted, fun _ => none, ?_, closed⟩, fun _ _ => rfl⟩
      simp [ready, single]
    · rename_i never
      refine ⟨⟨counted, fun _ => none, single, closed⟩, fun positive => absurd positive never⟩

theorem new_accounted (idleTimeoutTime maxTime : Int) : IdleAccounted (new idleTimeoutTime maxTime) :=
  (startIdleTimer_accounted rfl rfl rfl (by simp)).1

@[simp] theorem startIdleTimer_active (s : ExpiringFilter) : s.startIdleTimer.active = s.active := by
  unfold startIdleTimer
  repeat' split
  all_goals rfl

@[simp] theorem startIdleTimer_idleTimeoutTime (s : ExpiringFilter) :
    s.startIdleTimer.idleTimeoutTime = s.idleTimeoutTime := by
  unfold startIdleTimer
  repeat' split
  all_goals rfl

theorem IdleAccounted.ready (accounted : IdleAccounted s) (busy : s.active ≠ 0) : s.idleTimeout = .ready := by
  cases timer : s.idleTimeout with
  | ready => rfl
  | pending => exact absurd (accounted.armed timer) busy

theorem ensured_accounted (accounted : IdleAccounted s) {calling outstanding : List Nat}
    (fewer : outstanding.length + calling.length + 1 = s.active) :
    IdleAccounted (ensured { s with calling := calling, outstanding := outstanding }) ∧
      Rearmed s (ensured { s with calling := calling, outstanding := outstanding }) := by
  have one : (1 : UInt32) ≤ s.requests := by
    rw [UInt32.le_iff_toNat_le, accounted.counted]
    show 1 ≤ s.active
    omega
  have counted : (s.requests - 1).toNat = outstanding.length + calling.length := by
    rw [UInt32.toNat_sub_of_le _ _ one, accounted.counted]
    show s.active - 1 = _
    omega
  have started := startIdleTimer_accounted
    (s := { s with calling := calling, outstanding := outstanding, requests := s.requests - 1 })
    counted (accounted.ready (by omega)) accounted.single accounted.closed
  refine ⟨started.1, fun positive _ none => started.2 ?_ ?_⟩
  · simpa [ensured] using positive
  · simpa [ensured] using none

theorem call_accounted (accounted : IdleAccounted s) (room : s.active + 1 < 4294967296) : IdleAccounted s.call where
  counted := by
    have sum := UInt32.toNat_add s.requests 1
    rw [accounted.counted] at sum
    have one : (1 : UInt32).toNat = 1 := rfl
    simp only [call, active, List.length_cons] at sum room ⊢
    omega
  armed := by simp [call]
  single := accounted.single
  closed := accounted.closed

theorem close_accounted {closer : Closer} (accounted : IdleAccounted s)
    (idle : closer = .idleTimer → s.active = 0) : IdleAccounted (s.close closer) where
  counted := accounted.counted
  armed := accounted.armed
  single := accounted.single
  closed := by
    intro n member
    rcases List.mem_append.mp member with earlier | now
    · exact accounted.closed n earlier
    · obtain ⟨same, rfl⟩ := Prod.mk.inj (List.mem_singleton.mp now)
      exact idle same.symm

theorem IdleAccounted.disarmed (accounted : IdleAccounted s) : IdleAccounted { s with idleTimeout := .ready } where
  counted := accounted.counted
  armed := by simp
  single := accounted.single
  closed := accounted.closed

theorem answered_accounted {outcome : Outcome} (accounted : IdleAccounted s) (countable : Countable s (.answered outcome))
    (taken : s.answered outcome = .ok s') : IdleAccounted s' ∧ Rearmed s s' := by
  unfold answered at taken
  split at taken
  · cases taken
  · rename_i i calling innermost
    cases outcome with
    | later =>
        cases taken
        refine ⟨⟨?_, ?_, accounted.single, accounted.closed⟩, fun _ _ none => ?_⟩
        · simp [accounted.counted, active, innermost, Nat.add_right_comm, Nat.add_assoc]
        · have ready := accounted.ready (by simp [active, innermost])
          simp [ready]
        · simp [active] at none
    | completed success =>
        cases taken
        exact ensured_accounted accounted (by simp [active, innermost, Nat.add_assoc])
    | threw => simp [Countable, innermost] at countable

theorem step_accounted (accounted : IdleAccounted s) (countable : Countable s op) (taken : s.step op = .ok s') :
    IdleAccounted s' ∧ Rearmed s s' := by
  cases op with
  | request =>
      cases taken
      refine ⟨call_accounted accounted countable, fun _ _ none => ?_⟩
      simp [call, active] at none
  | answered outcome => exact answered_accounted accounted countable taken
  | finish i success =>
      simp only [step] at taken
      split at taken
      · rename_i member
        cases taken
        have some := List.length_pos_of_mem member
        apply ensured_accounted accounted
        rw [List.length_erase_of_mem member, active]
        omega
      · cases taken
  | idleExpired =>
      simp only [step] at taken
      split at taken
      · rename_i pending
        cases taken
        refine ⟨close_accounted accounted.disarmed fun _ => accounted.armed pending, fun _ busy => ?_⟩
        exact absurd (accounted.armed pending) busy
      · cases taken
  | abandonedExpired =>
      simp only [step, accounted.single] at taken
      cases taken
  | maxExpired =>
      simp only [step] at taken
      split at taken
      · cases taken
        refine ⟨close_accounted ⟨accounted.counted, accounted.armed, accounted.single, accounted.closed⟩ (by simp), ?_⟩
        exact fun _ busy none => absurd none busy
      · cases taken
  | close =>
      cases taken
      refine ⟨close_accounted accounted (by simp), ?_⟩
      exact fun _ busy none => absurd none busy

theorem step_breaks (accounted : IdleAccounted s) (uncountable : ¬ Countable s op) :
    ∃ s', s.step op = .ok s' ∧ ¬ IdleAccounted s' := by
  cases op with
  | request =>
      refine ⟨_, rfl, fun after => ?_⟩
      have bound := UInt32.toNat_lt s.call.requests
      have counted := after.counted
      simp only [Countable, call, active, List.length_cons] at uncountable counted bound
      omega
  | answered outcome =>
      cases outcome with
      | threw =>
          simp only [Countable] at uncountable
          obtain ⟨i, calling, innermost⟩ := List.exists_cons_of_ne_nil uncountable
          refine ⟨{ s with calling := calling }, by simp [step, answered, innermost], fun after => ?_⟩
          have counted := after.counted
          have before := accounted.counted
          simp only [active, innermost, List.length_cons] at counted before
          omega
      | _ => exact absurd trivial uncountable
  | _ => exact absurd trivial uncountable

theorem idleAccounted_iff (idleTimeoutTime maxTime : Int) (ops : List ExpiringFilter.Op) :
    ((∀ front s, front <+: ops → run (new idleTimeoutTime maxTime) front = .ok s → IdleAccounted s) ∧
        ∀ front op s s', front ++ [op] <+: ops → run (new idleTimeoutTime maxTime) front = .ok s →
          s.step op = .ok s' → Rearmed s s') ↔
      Along step Countable (new idleTimeoutTime maxTime) ops := by
  have always : (∀ front s, front <+: ops → run (new idleTimeoutTime maxTime) front = .ok s → IdleAccounted s) ↔
      Along step Countable (new idleTimeoutTime maxTime) ops := by
    apply always_iff_along (I := IdleAccounted) _ _ (fun _ => id) (new_accounted idleTimeoutTime maxTime)
    · exact fun s op s' accounted countable taken => (step_accounted accounted countable taken).1
    · exact fun s op accounted uncountable => step_breaks accounted uncountable
  refine ⟨fun both => always.mp both.1, fun along => ⟨always.mpr along, ?_⟩⟩
  rintro front op s s' ⟨rest, rfl⟩ done taken
  have accounted := always.mpr along front s ⟨op :: rest, by simp⟩ done
  rw [List.append_assoc] at along
  exact (step_accounted accounted (along_after along done).1 taken).2

/-- The wrapped service throws for the first of two requests. When the second is done, nothing is active, but the
counter is 1 and the idle timer is not armed. -/
theorem throwing_service_disables_idleTimer :
    ∃ s s', run (new 100 0) [.request, .answered .threw, .request, .answered .later] = .ok s ∧
      s.step (.finish 1 true) = .ok s' ∧ s'.active = 0 ∧ s'.requests = 1 ∧ ¬ IdleAccounted s' ∧ ¬ Rearmed s s' := by
  refine ⟨_, _, rfl, rfl, rfl, rfl, fun accounted => ?_, fun rearmed => ?_⟩
  · exact absurd accounted.counted (by decide)
  · exact absurd (rearmed (by decide) (by decide) rfl) (by decide)

end Wangle.Proof.Service
