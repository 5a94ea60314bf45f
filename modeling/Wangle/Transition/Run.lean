import Mathlib.Init

/-!
# Runs of a step function that can get stuck
-/

namespace Wangle.Transition

variable {σ α ε : Type} (step : σ → α → Except ε σ)

def run : σ → List α → Except ε σ
  | s, [] => .ok s
  | s, op :: ops => match step s op with
      | .error e => .error e
      | .ok s' => run s' ops

/-- Every step of the run is taken in a state in which `P` permits it. -/
def Along (P : σ → α → Prop) : σ → List α → Prop
  | _, [] => True
  | s, op :: ops => P s op ∧ ∀ s', step s op = .ok s' → Along P s' ops

variable {step} {P : σ → α → Prop}

theorem run_cons {s s' : σ} {op : α} {ops : List α} :
    run step s (op :: ops) = .ok s' ↔ ∃ next, step s op = .ok next ∧ run step next ops = .ok s' := by
  cases taken : step s op with
  | error e => simp [run, taken]
  | ok next => simp [run, taken]

theorem run_append {s s' : σ} {front rest : List α} :
    run step s (front ++ rest) = .ok s' ↔ ∃ next, run step s front = .ok next ∧ run step next rest = .ok s' := by
  induction front generalizing s with
  | nil => simp [run]
  | cons op front ih =>
      rw [List.cons_append, run_cons]
      constructor
      · rintro ⟨first, taken, done⟩
        obtain ⟨next, toNext, last⟩ := ih.mp done
        exact ⟨next, run_cons.mpr ⟨first, taken, toNext⟩, last⟩
      · rintro ⟨next, toNext, last⟩
        obtain ⟨first, taken, done⟩ := run_cons.mp toNext
        exact ⟨first, taken, ih.mpr ⟨next, done, last⟩⟩

instance decidableAlong [∀ s op, Decidable (P s op)] : (s : σ) → (ops : List α) → Decidable (Along step P s ops)
  | _, [] => isTrue trivial
  | s, op :: ops => match taken : step s op with
      | .error _ => decidable_of_iff (P s op) (by simp [Along, taken])
      | .ok s' =>
          have := decidableAlong s' ops
          decidable_of_iff (P s op ∧ Along step P s' ops) (by simp [Along, taken])

theorem bind_eq_ok {τ : Type} {result : Except ε σ} {f : σ → Except ε τ} {b : τ} :
    (do let a ← result; f a) = .ok b ↔ ∃ a, result = .ok a ∧ f a = .ok b := by
  cases result with
  | error e => simp [bind, Except.bind]
  | ok a => simp [bind, Except.bind]

theorem map_eq_ok {τ : Type} {result : Except ε σ} {f : σ → τ} {b : τ} :
    result.map f = .ok b ↔ ∃ a, result = .ok a ∧ f a = b := by
  cases result with
  | error e => simp [Except.map]
  | ok a => simp [Except.map]

def stuck? : Except ε σ → Option ε
  | .error e => some e
  | .ok _ => none

theorem eq_error_of_stuck? {result : Except ε σ} {e : ε} (stuck : stuck? result = some e) : result = .error e := by
  cases result with
  | error e' =>
      cases stuck
      rfl
  | ok s => cases stuck

def Ends (Q : σ → Prop) : Except ε σ → Prop
  | .error _ => False
  | .ok s => Q s

instance {Q : σ → Prop} [DecidablePred Q] : (result : Except ε σ) → Decidable (Ends Q result)
  | .error _ => isFalse id
  | .ok s => inferInstanceAs (Decidable (Q s))

theorem Ends.exists_ok {Q : σ → Prop} {result : Except ε σ} (ends : Ends Q result) :
    ∃ s, result = .ok s ∧ Q s := by
  cases result with
  | error e => exact ends.elim
  | ok s => exact ⟨s, rfl, ends⟩

/-- The result is as required, or stuck for a reason that is not `bad`. -/
def Yields (bad : ε → Prop) (Q : σ → Prop) : Except ε σ → Prop
  | .error e => ¬ bad e
  | .ok s => Q s

theorem Yields.ne_error {bad : ε → Prop} {Q : σ → Prop} {result : Except ε σ} (yields : Yields bad Q result) {e : ε}
    (isBad : bad e) : result ≠ .error e := by
  rintro rfl
  exact yields isBad

theorem Yields.of_ok {bad : ε → Prop} {Q : σ → Prop} {result : Except ε σ} (yields : Yields bad Q result) {s : σ}
    (done : result = .ok s) : Q s := by
  subst done
  exact yields

theorem Yields.imp {bad : ε → Prop} {Q R : σ → Prop} {result : Except ε σ} (yields : Yields bad Q result)
    (implies : ∀ s, Q s → R s) : Yields bad R result := by
  cases result with
  | error e => exact yields
  | ok s => exact implies s yields

theorem Yields.fewer {bad other : ε → Prop} {Q : σ → Prop} {result : Except ε σ} (yields : Yields bad Q result)
    (fewer : ∀ e, other e → bad e) : Yields other Q result := by
  cases result with
  | error e => exact fun isBad => yields (fewer e isBad)
  | ok s => exact yields

theorem Yields.and {bad other : ε → Prop} {Q R : σ → Prop} {result : Except ε σ} (first : Yields bad Q result)
    (second : Yields other R result) : Yields (fun e => bad e ∨ other e) (fun s => Q s ∧ R s) result := by
  cases result with
  | error e => exact fun either => either.elim first second
  | ok s => exact ⟨first, second⟩

theorem along_append {s : σ} {front rest : List α} (along : Along step P s (front ++ rest)) : Along step P s front := by
  induction front generalizing s with
  | nil => trivial
  | cons op front ih => exact ⟨along.1, fun s' taken => ih (along.2 s' taken)⟩

theorem along_after {s s' : σ} {front rest : List α} (along : Along step P s (front ++ rest))
    (done : run step s front = .ok s') : Along step P s' rest := by
  induction front generalizing s with
  | nil =>
      cases done
      exact along
  | cons op front ih =>
      obtain ⟨next, taken, done⟩ := run_cons.mp done
      exact ih (along.2 next taken) done

theorem along_and {R : α → Prop} {s : σ} {ops : List α} (along : Along step P s ops) (each : ∀ op ∈ ops, R op) :
    Along step (fun s op => P s op ∧ R op) s ops := by
  induction ops generalizing s with
  | nil => trivial
  | cons op ops ih =>
      refine ⟨⟨along.1, each op List.mem_cons_self⟩, fun s' taken => ih (along.2 s' taken) ?_⟩
      exact fun op member => each op (List.mem_cons_of_mem _ member)

theorem Along.and {Q : σ → α → Prop} {s : σ} {ops : List α} (first : Along step P s ops) (second : Along step Q s ops) :
    Along step (fun s op => P s op ∧ Q s op) s ops := by
  induction ops generalizing s with
  | nil => trivial
  | cons op ops ih => exact ⟨⟨first.1, second.1⟩, fun s' taken => ih (first.2 s' taken) (second.2 s' taken)⟩

theorem run_history {I : List α → σ → Prop}
    (kept : ∀ past s op s', I past s → P s op → step s op = .ok s' → I (past ++ [op]) s')
    {past ops : List α} {s s' : σ} (start : I past s) (along : Along step P s ops) (done : run step s ops = .ok s') :
    I (past ++ ops) s' := by
  induction ops generalizing past s with
  | nil =>
      cases done
      rwa [List.append_nil]
  | cons op ops ih =>
      obtain ⟨next, taken, rest⟩ := run_cons.mp done
      rw [← List.singleton_append, ← List.append_assoc]
      exact ih (kept past s op next start along.1 taken) (along.2 next taken) rest

theorem run_invariant {I : σ → Prop} (kept : ∀ s op s', I s → P s op → step s op = .ok s' → I s')
    {s s' : σ} {ops : List α} (start : I s) (along : Along step P s ops) (done : run step s ops = .ok s') :
    I s' :=
  @run_history σ α ε step P (fun _ => I) (fun _ => kept) [] ops s s' start along done

theorem along_true (s : σ) (ops : List α) : Along step (fun _ _ => True) s ops := by
  induction ops generalizing s with
  | nil => trivial
  | cons op ops ih => exact ⟨trivial, fun s' _ => ih s'⟩

theorem run_invariant_all {I : σ → Prop} (kept : ∀ s op s', I s → step s op = .ok s' → I s')
    {s s' : σ} {ops : List α} (start : I s) (done : run step s ops = .ok s') : I s' :=
  run_invariant (fun s op s' holds _ => kept s op s' holds) start (along_true s ops) done

theorem yields_history {I : List α → σ → Prop} {bad : ε → Prop}
    (kept : ∀ past s op, I past s → P s op → Yields bad (I (past ++ [op])) (step s op))
    {past ops : List α} {s : σ} (start : I past s) (along : Along step P s ops) :
    Yields bad (I (past ++ ops)) (run step s ops) := by
  induction ops generalizing past s with
  | nil => rwa [List.append_nil]
  | cons op ops ih =>
      have first := kept past s op start along.1
      cases taken : step s op with
      | error e =>
          rw [taken] at first
          rw [run, taken]
          exact first
      | ok s' =>
          rw [taken] at first
          rw [run, taken, ← List.singleton_append, ← List.append_assoc]
          exact ih first (along.2 s' taken)

theorem yields_run {I : σ → Prop} {bad : ε → Prop} (kept : ∀ s op, I s → P s op → Yields bad I (step s op))
    {s : σ} {ops : List α} (start : I s) (along : Along step P s ops) : Yields bad I (run step s ops) :=
  @yields_history σ α ε step P (fun _ => I) bad (fun _ => kept) [] ops s start along

theorem yields_run_all {I : σ → Prop} {bad : ε → Prop} (kept : ∀ s op, I s → Yields bad I (step s op))
    {s : σ} (start : I s) (ops : List α) : Yields bad I (run step s ops) :=
  yields_run (fun s op holds _ => kept s op holds) start (along_true s ops)

theorem run_ne_error {I : σ → Prop} {e : ε} (kept : ∀ s op s', I s → P s op → step s op = .ok s' → I s')
    (safe : ∀ s op, I s → P s op → step s op ≠ .error e)
    {s : σ} {ops : List α} (start : I s) (along : Along step P s ops) : run step s ops ≠ .error e := by
  induction ops generalizing s with
  | nil => simp [run]
  | cons op ops ih =>
      cases taken : step s op with
      | error e' =>
          rw [run, taken]
          exact fun equal => safe s op start along.1 (taken.trans equal)
      | ok s' =>
          rw [run, taken]
          exact ih (kept s op s' start along.1 taken) (along.2 s' taken)

/-- A run that ends well has taken only permitted steps, if a step that is not permitted leads to a bad
state and bad states stay bad. -/
theorem along_of_not_bad {I B : σ → Prop} (kept : ∀ s op s', I s → P s op → step s op = .ok s' → I s')
    (breaks : ∀ s op s', I s → ¬ P s op → step s op = .ok s' → B s')
    (stays : ∀ s op s', B s → step s op = .ok s' → B s')
    {s s' : σ} {ops : List α} (start : I s) (done : run step s ops = .ok s') (good : ¬ B s') :
    Along step P s ops := by
  induction ops generalizing s with
  | nil => trivial
  | cons op ops ih =>
      obtain ⟨next, taken, rest⟩ := run_cons.mp done
      by_cases permitted : P s op
      · refine ⟨permitted, fun s' taken' => ?_⟩
        rw [taken] at taken'
        cases taken'
        exact ih (kept s op next start permitted taken) rest
      · exact absurd (run_invariant_all stays (breaks s op next start permitted taken) rest) good

/-- A run that does not get stuck for the reason `e` has taken only permitted steps, if every other step does. -/
theorem along_of_ne_error {I : σ → Prop} {R : α → Prop} {e : ε}
    (kept : ∀ s op s', I s → P s op → R op → step s op = .ok s' → I s')
    (breaks : ∀ s op, I s → ¬ P s op → step s op = .error e)
    {s : σ} {ops : List α} (start : I s) (each : ∀ op ∈ ops, R op) (good : run step s ops ≠ .error e) :
    Along step P s ops := by
  induction ops generalizing s with
  | nil => trivial
  | cons op ops ih =>
      have permitted : P s op := by
        refine Classical.byContradiction fun forbidden => good ?_
        rw [run, breaks s op start forbidden]
      refine ⟨permitted, fun s' taken => ih (kept s op s' start permitted (each op List.mem_cons_self) taken) ?_ ?_⟩
      · exact fun op member => each op (List.mem_cons_of_mem _ member)
      · rwa [run, taken] at good

/-- A property that every permitted step keeps, and that every other step breaks, holds all along exactly the
runs of permitted steps. -/
theorem always_iff_along {I Q : σ → Prop} (kept : ∀ s op s', I s → P s op → step s op = .ok s' → I s')
    (breaks : ∀ s op, I s → ¬ P s op → ∃ s', step s op = .ok s' ∧ ¬ Q s') (meets : ∀ s, I s → Q s)
    {s : σ} {ops : List α} (start : I s) :
    (∀ front s', front <+: ops → run step s front = .ok s' → Q s') ↔ Along step P s ops := by
  constructor
  · intro always
    induction ops generalizing s with
    | nil => trivial
    | cons op ops ih =>
        have permitted : P s op := by
          refine Classical.byContradiction fun forbidden => ?_
          obtain ⟨s', taken, broken⟩ := breaks s op start forbidden
          exact broken (always [op] s' ⟨ops, rfl⟩ (run_cons.mpr ⟨s', taken, rfl⟩))
        refine ⟨permitted, fun s' taken => ih (kept s op s' start permitted taken) fun front t isFront done => ?_⟩
        exact always (op :: front) t (List.cons_prefix_cons.mpr ⟨rfl, isFront⟩) (run_cons.mpr ⟨s', taken, done⟩)
  · rintro along front s' ⟨rest, rfl⟩ done
    exact meets s' (run_invariant kept start (along_append along) done)

/-! ## The states that a run has passed -/

section Passed
variable {start s s' : σ} {past ops : List α} {op : α}

def Passed (step : σ → α → Except ε σ) (start : σ) (past : List α) (s : σ) : Prop :=
  ∃ front, front <+: past ∧ run step start front = .ok s

theorem Passed.later (passed : Passed step start past s) (op : α) : Passed step start (past ++ [op]) s :=
  passed.imp fun _ reached => ⟨reached.1.trans (List.prefix_append ..), reached.2⟩

theorem run_concat (done : run step start past = .ok s) (taken : step s op = .ok s') :
    run step start (past ++ [op]) = .ok s' :=
  run_append.mpr ⟨s, done, run_cons.mpr ⟨s', taken, rfl⟩⟩

theorem passed_of_run (done : run step start past = .ok s) : Passed step start past s := ⟨past, List.prefix_rfl, done⟩

/-- An invariant that speaks of the operations taken so far and of the states that they have passed. -/
theorem run_passed {I : List α → σ → Prop}
    (kept : ∀ past s op s', run step start past = .ok s → I past s → P s op → step s op = .ok s' → I (past ++ [op]) s')
    (init : I [] start) (along : Along step P start ops) (done : run step start ops = .ok s) : I ops s := by
  have first : run step start [] = .ok start ∧ I [] start := ⟨rfl, init⟩
  refine (run_history (I := fun past s => run step start past = .ok s ∧ I past s) ?_ first along done).2
  intro past s op s' ⟨reached, holds⟩ permitted taken
  exact ⟨run_concat reached taken, kept past s op s' reached holds permitted taken⟩

end Passed

/-! ## Histories in which every event is permitted by the events before it -/

section Lawful
variable {P : List α → α → Prop} {past events : List α}

def Lawful (P : List α → α → Prop) : List α → List α → Prop
  | _, [] => True
  | past, e :: events => P past e ∧ Lawful P (past ++ [e]) events

theorem lawful_append {more : List α} :
    Lawful P past (events ++ more) ↔ Lawful P past events ∧ Lawful P (past ++ events) more := by
  induction events generalizing past with
  | nil => simp [Lawful]
  | cons e events ih => simp [Lawful, ih, and_assoc]

theorem lawful_of_forall (always : ∀ past, ∀ e ∈ events, P past e) : Lawful P past events := by
  induction events generalizing past with
  | nil => trivial
  | cons e events ih =>
      refine ⟨always past e List.mem_cons_self, ih ?_⟩
      exact fun past e member => always past e (List.mem_cons_of_mem _ member)

theorem Lawful.imp {Q : List α → α → Prop} {past' : List α} (lawful : Lawful P past events)
    (implies : ∀ more e, P (past ++ more) e → Q (past' ++ more) e) : Lawful Q past' events := by
  induction events generalizing past past' with
  | nil => trivial
  | cons e events ih =>
      refine ⟨by simpa using implies [] e (by simpa using lawful.1), ih lawful.2 fun more x permitted => ?_⟩
      simpa using implies (e :: more) x (by simpa using permitted)

theorem Lawful.permitted (lawful : Lawful P past events) {before after : List α} {e : α}
    (split : events = before ++ e :: after) : P (past ++ before) e := by
  rw [split, lawful_append] at lawful
  exact lawful.2.1

end Lawful

end Wangle.Transition
