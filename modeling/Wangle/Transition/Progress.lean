import Wangle.Transition.Run

/-!
# What a thread brings about while the others take their steps
-/

namespace Wangle.Transition

variable {σ α ε : Type} (step : σ → α → Except ε σ)

/-- The thread reaches `Q` with at most `n` steps of its own, whatever the others do before each of them: it can
always go on, and every step that `P` permits brings it nearer. -/
def Leads (others own : α → Prop) (P : σ → α → Prop) (Q : σ → Prop) : Nat → σ → Prop
  | 0, s => Q s
  | n + 1, s => Q s ∨ ∀ ops s', (∀ op ∈ ops, others op) → run step s ops = .ok s' →
      (∃ op t, own op ∧ step s' op = .ok t) ∧
        ∀ op t, own op → P s' op → step s' op = .ok t → Leads others own P Q n t

variable {step} {others own : α → Prop} {P : σ → α → Prop} {Q I : σ → Prop}

theorem leads_of_reached {s : σ} (reached : Q s) (n : Nat) : Leads step others own P Q n s := by
  cases n with
  | zero => exact reached
  | succ n => exact .inl reached

theorem leads_of_rank (rank : σ → Nat)
    (quiet : ∀ s op s', I s → others op → step s op = .ok s' → I s' ∧ rank s' = rank s)
    (enabled : ∀ s, I s → ∃ op t, own op ∧ step s op = .ok t)
    (descends : ∀ s op s', I s → own op → P s op → step s op = .ok s' → Q s' ∨ I s' ∧ rank s' < rank s)
    {n : Nat} {s : σ} (start : I s) (bound : rank s < n) : Leads step others own P Q n s := by
  induction n generalizing s with
  | zero => exact absurd bound (Nat.not_lt_zero _)
  | succ n ih =>
      refine .inr fun ops s' each done => ?_
      obtain ⟨holds, same⟩ : I s' ∧ rank s' = rank s := by
        refine run_invariant (I := fun t => I t ∧ rank t = rank s) ?_ ⟨start, rfl⟩ (along_and (along_true s ops) each) done
        intro t op t' here permitted taken
        obtain ⟨kept, equal⟩ := quiet t op t' here.1 permitted.2 taken
        exact ⟨kept, equal.trans here.2⟩
      refine ⟨enabled s' holds, fun op t isOwn permitted taken => ?_⟩
      obtain reached | ⟨kept, smaller⟩ := descends s' op t holds isOwn permitted taken
      · exact leads_of_reached reached n
      · exact ih kept (by omega)

theorem reaches_of_rank (rank : σ → Nat)
    (goes : ∀ s, I s → Q s ∨ ∃ op s', own op ∧ step s op = .ok s' ∧ I s' ∧ rank s' < rank s) {s : σ} (start : I s) :
    ∃ ops s', (∀ op ∈ ops, own op) ∧ run step s ops = .ok s' ∧ I s' ∧ Q s' := by
  induction bound : rank s using Nat.strongRecOn generalizing s with
  | ind n ih =>
      obtain reached | ⟨op, next, isOwn, taken, holds, smaller⟩ := goes s start
      · exact ⟨[], s, by simp, rfl, start, reached⟩
      · obtain ⟨ops, s', each, done, holds', reached⟩ := ih (rank next) (bound ▸ smaller) holds rfl
        refine ⟨op :: ops, s', fun other member => ?_, run_cons.mpr ⟨next, taken, done⟩, holds', reached⟩
        obtain rfl | member := List.mem_cons.mp member
        · exact isOwn
        · exact each other member

end Wangle.Transition
