import Wangle.Proof.Acceptor.Effects

/-!
# One turn of the drain helper
-/

namespace Wangle.Proof.Acceptor
open Wangle.Acceptor Wangle.Intrusive ConnectionManager

variable {Conn : Type} [DecidableEq Conn]

def visited (s : ConnectionManager Conn) (state : DrainState) : DrainState :=
  if s.drainHelper.shutdownState = .notifyPendingShutdown then
    if state = .none then .sentNotifyPendingShutdown else state
  else if s.notifyPendingShutdown = false ∨ state = .sentNotifyPendingShutdown then .sentCloseWhenIdle
  else state

omit [DecidableEq Conn] in
theorem visited_congr {s s' : ConnectionManager Conn} (same : SameDrain s s') : visited s' = visited s := by
  funext state
  simp only [visited, same.drainHelper, same.notifyPendingShutdown]

theorem removeConnection_drainState (c : Conn) (s : ConnectionManager Conn) :
    (s.removeConnection c).drainState = s.drainState := by
  cases managed : s.isManaged c with
  | false => rw [removeConnection_of_not_managed managed]
  | true =>
      obtain ⟨calls, equal, -⟩ := removeConnection_eq managed
      rw [equal]

theorem removeConnections_drainState (cs : List Conn) (s : ConnectionManager Conn) :
    (s.removeConnections cs).drainState = s.drainState := by
  induction cs generalizing s with
  | nil => rfl
  | cons c cs ih => exact (ih _).trans (removeConnection_drainState c s)

theorem drainOne_drainState (reaction : Reaction Conn) (c : Conn) (s : ConnectionManager Conn) :
    (DrainHelper.drainOne reaction c s).drainState =
      Function.update s.drainState c (visited s (s.drainState c)) := by
  unfold DrainHelper.drainOne visited
  split
  · unfold fireNotifyPendingShutdown
    split
    · rw [removeConnections_drainState]
      rfl
    · rw [Function.update_eq_self]
  · unfold fireCloseWhenIdle
    simp only [Bool.not_eq_eq_eq_not, Bool.not_true]
    split
    · rw [removeConnections_drainState]
      rfl
    · rw [Function.update_eq_self]

/-! ## What a callback may remove -/

theorem removeConnections_mem {s : ConnectionManager Conn} (listed : Listed s) (cs : List Conn) (c : Conn) :
    c ∈ (s.removeConnections cs).conns ↔ c ∈ s.conns ∧ c ∉ cs := by
  induction cs generalizing s with
  | nil => simp [removeConnections]
  | cons x cs ih =>
      have rest := ih (listed.removeConnection x)
      rw [removeConnection_conns listed, listed.nodup.mem_erase_iff] at rest
      rw [removeConnections, List.foldl_cons]
      refine rest.trans ?_
      rw [List.mem_cons]
      tauto

theorem drainOne_cases (reaction : Reaction Conn) (c : Conn) (s : ConnectionManager Conn) :
    DrainHelper.drainOne reaction c s = s ∨
      ∃ m, Effect s m ∧ m.conns = s.conns ∧ DrainHelper.drainOne reaction c s = m.removeConnections (reaction c) := by
  unfold DrainHelper.drainOne fireNotifyPendingShutdown fireCloseWhenIdle
  split
  · split
    · rename_i fresh
      exact .inr ⟨_, .notify c fresh, rfl, rfl⟩
    · exact .inl rfl
  · split
    · rename_i due
      exact .inr ⟨_, .close c (by simpa using due), rfl, rfl⟩
    · exact .inl rfl

theorem drainOne_keeps {reaction : Reaction Conn} {c x : Conn} {s : ConnectionManager Conn} (wf : WellFormed s)
    (member : x ∈ s.conns) (kept : x ∉ reaction c) : x ∈ (DrainHelper.drainOne reaction c s).conns := by
  rcases drainOne_cases reaction c s with same | ⟨m, effect, conns, removed⟩
  · rwa [same]
  · rw [removed, removeConnections_mem (effect.wellFormed wf).toListed, conns]
    exact ⟨member, kept⟩

/-! ## The loop -/

/-- The loop visits `seen` and leaves `rest`. The connections that are `ahead` of it are left out when a
callback removes them. -/
inductive Looped (reaction : Reaction Conn) :
    Nat → List Conn → ConnectionManager Conn → List Conn → List Conn → ConnectionManager Conn → Prop
  | stop (ahead : List Conn) (s : ConnectionManager Conn) : Looped reaction 0 ahead s [] ahead s
  | finish (n : Nat) (s : ConnectionManager Conn) : Looped reaction (n + 1) [] s [] [] s
  | visit {n : Nat} {c : Conn} {tail seen rest : List Conn} {s s' : ConnectionManager Conn}
      (further : Looped reaction n (tail.filter (· ∈ (DrainHelper.drainOne reaction c s).conns))
        (DrainHelper.drainOne reaction c s) seen rest s') :
      Looped reaction (n + 1) (c :: tail) s (c :: seen) rest s'

theorem drainLoop_looped {reaction : Reaction Conn} {n : Nat} {it it' : Option Conn} {before ahead : List Conn}
    {s s' : ConnectionManager Conn} (done : DrainHelper.drainLoop reaction n it s = .ok (it', s'))
    (wf : WellFormed s) (divides : Divides s.conns it before ahead) :
    ∃ seen rest, Looped reaction n ahead s seen rest s' ∧ it' = rest.head? := by
  induction n generalizing it s before ahead with
  | zero =>
      cases done
      exact ⟨[], ahead, .stop ahead _, divides.stands⟩
  | succ n ih =>
      cases it with
      | none =>
          cases done
          obtain rfl := List.head?_eq_none_iff.mp divides.stands.symm
          exact ⟨[], [], .finish n _, rfl⟩
      | some c =>
          obtain ⟨tail, rfl⟩ := List.head?_eq_some_iff.mp divides.stands.symm
          rw [DrainHelper.drainLoop] at done
          split at done
          · rename_i valid
            have effects := drainOne_effects reaction c s
            have stands : ∀ x, next c s.conns = some x → x ∈ (DrainHelper.drainOne reaction c s).conns := by
              intro x stands
              simpa [stands] using valid
            -- the iterator has left `c` before the callback, and the callback has left the iterator
            have advanced := (divides.advance wf.nodup).sublist effects.conns_sublist wf.nodup stands
            obtain ⟨seen, rest, looped, left⟩ := ih done (effects.wellFormed wf) advanced
            exact ⟨c :: seen, rest, .visit looped, left⟩
          · cases done

theorem Looped.effects {reaction : Reaction Conn} {n : Nat} {ahead seen rest : List Conn}
    {s s' : ConnectionManager Conn} (looped : Looped reaction n ahead s seen rest s') : Effects s s' := by
  induction looped with
  | stop ahead s => exact .refl
  | finish n s => exact .refl
  | visit further ih => exact (drainOne_effects reaction _ _).trans ih

theorem Looped.length_le {reaction : Reaction Conn} {n : Nat} {ahead seen rest : List Conn}
    {s s' : ConnectionManager Conn} (looped : Looped reaction n ahead s seen rest s') : seen.length ≤ n := by
  induction looped with
  | stop ahead s => exact Nat.le_refl 0
  | finish n s => exact Nat.zero_le _
  | visit further ih => exact Nat.succ_le_succ ih

theorem Looped.kept {reaction : Reaction Conn} {n : Nat} {ahead seen rest : List Conn}
    {s s' : ConnectionManager Conn} (looped : Looped reaction n ahead s seen rest s') (wf : WellFormed s) {x : Conn}
    (member : x ∈ s.conns) (spared : ∀ c ∈ seen, x ∉ reaction c) : x ∈ s'.conns := by
  induction looped with
  | stop ahead s => exact member
  | finish n s => exact member
  | @visit n c tail seen rest s s' further ih =>
      refine ih ((drainOne_effects reaction c s).wellFormed wf) ?_ fun y later => spared y (List.mem_cons_of_mem _ later)
      exact drainOne_keeps wf member (spared c List.mem_cons_self)

structure Drained (ahead seen rest : List Conn) (s s' : ConnectionManager Conn) : Prop where
  effects : Effects s s'
  conns : ∃ before, s'.conns = before ++ rest
  seen_nodup : seen.Nodup
  seen_subset : seen ⊆ ahead
  rest_subset : rest ⊆ ahead
  covers : ∀ c ∈ ahead, c ∈ s'.conns → c ∈ seen ∨ c ∈ rest
  drainState_seen : ∀ c ∈ seen, s'.drainState c = visited s (s.drainState c)
  drainState_other : ∀ c, c ∉ seen → s'.drainState c = s.drainState c

theorem Looped.drained {reaction : Reaction Conn} {n : Nat} {ahead seen rest before : List Conn}
    {s s' : ConnectionManager Conn} (looped : Looped reaction n ahead s seen rest s') (nodup : s.conns.Nodup)
    (eq : s.conns = before ++ ahead) : Drained ahead seen rest s s' := by
  induction looped generalizing before with
  | stop ahead s =>
      exact ⟨.refl, ⟨before, eq⟩, List.nodup_nil, List.nil_subset _, fun _ => id, fun c member _ => .inr member, by simp, by simp⟩
  | finish n s =>
      exact ⟨.refl, ⟨before, eq⟩, List.nodup_nil, List.nil_subset _, fun _ => id, fun c member _ => .inr member, by simp, by simp⟩
  | @visit n c tail seen rest s s' further ih =>
      have effects := drainOne_effects reaction c s
      have state := drainOne_drainState reaction c s
      have conns := filter_mem_of_sublist effects.conns_sublist nodup
      rw [eq, ← List.singleton_append, ← List.append_assoc, List.filter_append] at conns
      have drained := ih (effects.conns_sublist.nodup nodup) conns.symm
      have fresh : c ∉ tail := by
        rw [eq] at nodup
        exact (List.nodup_cons.mp (List.nodup_append.mp nodup).2.1).1
      have later {x : Conn} (member : x ∈ seen) : x ∈ tail := (List.mem_filter.mp (drained.seen_subset member)).1
      refine ⟨effects.trans further.effects, drained.conns, ?_, ?_, ?_, ?_, ?_, ?_⟩
      · exact List.nodup_cons.mpr ⟨fun again => fresh (later again), drained.seen_nodup⟩
      · exact List.cons_subset_cons c fun x member => later member
      · exact fun x member => List.mem_cons_of_mem _ (List.mem_filter.mp (drained.rest_subset member)).1
      · intro x member kept
        rcases List.mem_cons.mp member with rfl | member
        · exact .inl List.mem_cons_self
        · have survives : x ∈ (DrainHelper.drainOne reaction c s).conns := drained.effects.conns_sublist.subset kept
          exact (drained.covers x (List.mem_filter.mpr ⟨member, by simpa using survives⟩) kept).imp
            (List.mem_cons_of_mem _) id
      · intro x member
        rcases List.mem_cons.mp member with rfl | member
        · rw [drained.drainState_other x fun again => fresh (later again), state, Function.update_self]
        · have other : x ≠ c := fun same => fresh (same ▸ later member)
          rw [drained.drainState_seen x member, visited_congr effects.sameDrain, state, Function.update_of_ne other]
      · intro x unseen
        rw [List.mem_cons, not_or] at unseen
        rw [drained.drainState_other x unseen.2, state, Function.update_of_ne unseen.1]

/-! ## The whole turn -/

def Active (h : DrainHelper) : Prop :=
  h.shutdownState = .notifyPendingShutdown ∨ h.shutdownState = .closeWhenIdle

def remaining (s : ConnectionManager Conn) : List Conn := onward s.drainIterator s.conns

inductive Finished (rest : List Conn) (m : ConnectionManager Conn) : ConnectionManager Conn → Prop
  | more (left : rest ≠ []) :
      Finished rest m
        { m with
          drainIterator := rest.head?
          drainHelper := { m.drainHelper with isLoopCallbackScheduled := true } }
  | notified (empty : rest = []) (notifying : m.drainHelper.shutdownState = .notifyPendingShutdown)
      (waiting : m.drainHelper.isScheduled = true) :
      Finished rest m
        { m with
          drainIterator := none
          drainHelper := { m.drainHelper with shutdownState := .notifyPendingShutdownComplete } }
  | expired (empty : rest = []) (notifying : m.drainHelper.shutdownState = .notifyPendingShutdown)
      (late : m.drainHelper.isScheduled = false) :
      Finished rest m
        { m with
          drainIterator := DrainHelper.drainStartIterator m
          drainHelper :=
            { m.drainHelper with shutdownState := .closeWhenIdle, isLoopCallbackScheduled := true } }
  | closed (empty : rest = []) (closing : m.drainHelper.shutdownState ≠ .notifyPendingShutdown) :
      Finished rest m
        { m with
          drainIterator := none
          drainHelper := { m.drainHelper with shutdownState := .closeWhenIdleComplete } }

omit [DecidableEq Conn] in
theorem Finished.same {rest : List Conn} {m s' : ConnectionManager Conn} (finished : Finished rest m s') :
    s'.conns = m.conns ∧ s'.drainState = m.drainState ∧ s'.trace = m.trace ∧
      s'.notifyPendingShutdown = m.notifyPendingShutdown ∧ s'.pendingAdds = m.pendingAdds := by
  cases finished <;> exact ⟨rfl, rfl, rfl, rfl, rfl⟩

omit [DecidableEq Conn] in
theorem finishDrain_finished (rest : List Conn) (m : ConnectionManager Conn) :
    Finished rest m (DrainHelper.finishDrain rest.head? m) := by
  by_cases empty : rest = []
  · by_cases notifying : m.drainHelper.shutdownState = .notifyPendingShutdown
    · cases scheduled : m.drainHelper.isScheduled with
      | true =>
          have finished := Finished.notified empty notifying scheduled
          simpa [DrainHelper.finishDrain, empty, notifying, scheduled] using finished
      | false =>
          have finished := Finished.expired empty notifying scheduled
          simpa [DrainHelper.finishDrain, empty, notifying, scheduled, DrainHelper.drainStartIterator] using finished
    · have finished := Finished.closed empty notifying
      simpa [DrainHelper.finishDrain, empty, notifying] using finished
  · have finished := Finished.more (m := m) empty
    simpa [DrainHelper.finishDrain, empty] using finished

theorem drainConnections_ok {reaction : Reaction Conn} {s s' : ConnectionManager Conn} (wf : WellFormed s)
    (done : DrainHelper.drainConnections reaction s = .ok s') :
    Active s.drainHelper ∧
      ∃ seen rest m, Looped reaction 64 (remaining s) s seen rest m ∧ Drained (remaining s) seen rest s m ∧
        Finished rest m s' := by
  unfold DrainHelper.drainConnections at done
  split at done
  · rename_i active
    split at done
    · cases done
    · rename_i it m loop
      cases done
      obtain ⟨before, divides⟩ := exists_divides wf.drain
      obtain ⟨seen, rest, looped, rfl⟩ := drainLoop_looped loop wf divides
      exact ⟨active, seen, rest, m, looped, looped.drained wf.nodup divides.eq, finishDrain_finished rest m⟩
  · cases done

end Wangle.Proof.Acceptor
