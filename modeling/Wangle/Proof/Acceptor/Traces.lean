import Wangle.Proof.Acceptor.Steps

/-!
# Traces and drain states
-/

namespace Wangle.Proof.Acceptor
open Wangle.Acceptor Wangle.Intrusive Wangle.Transition ConnectionManager

variable {Conn : Type}

def Quiet (e : Event Conn) : Prop := ∀ c, e ≠ .notifyPendingShutdown c ∧ e ≠ .closeWhenIdle c

structure Quietly (s s' : ConnectionManager Conn) : Prop where
  drainState : s'.drainState = s.drainState
  trace : ∃ more, s'.trace = s.trace ++ more ∧ ∀ e ∈ more, Quiet e

namespace Quietly
variable {s m s' : ConnectionManager Conn}

theorem of_eq (states : s'.drainState = s.drainState) (trace : s'.trace = s.trace) : Quietly s s' :=
  ⟨states, [], by rw [trace, List.append_nil], by simp⟩

theorem refl (s : ConnectionManager Conn) : Quietly s s := .of_eq rfl rfl

theorem trans (first : Quietly s m) (second : Quietly m s') : Quietly s s' := by
  obtain ⟨more, grown, quiet⟩ := first.trace
  obtain ⟨more', grown', quiet'⟩ := second.trace
  refine ⟨second.drainState.trans first.drainState, more ++ more', ?_, ?_⟩
  · rw [grown', grown, List.append_assoc]
  · intro e member
    exact (List.mem_append.mp member).elim (quiet e) (quiet' e)

theorem record {e : Event Conn} (quiet : Quiet e) : Quietly s (s.record e) :=
  ⟨rfl, [e], rfl, by simpa using quiet⟩

end Quietly

theorem Finished.quietly {rest : List Conn} {m s' : ConnectionManager Conn} (finished : Finished rest m s') :
    Quietly m s' :=
  .of_eq finished.same.2.1 finished.same.2.2.1

variable [DecidableEq Conn]

omit [DecidableEq Conn] in
theorem Enters.quietly {s entry : ConnectionManager Conn} {op : Op Conn} {reaction : Reaction Conn}
    (enters : Enters s op reaction entry) : Quietly s entry := by
  cases enters with
  | initiate idle =>
      unfold DrainHelper.beginDrain
      split <;> exact .of_eq rfl rfl
  | drain idle =>
      unfold DrainHelper.beginDrain
      split <;> exact .of_eq rfl rfl
  | loop scheduled => exact .of_eq rfl rfl
  | timeout scheduled complete => exact .of_eq rfl rfl

theorem removeConnection_quietly (c : Conn) (s : ConnectionManager Conn) : Quietly s (s.removeConnection c) := by
  cases managed : s.isManaged c with
  | false =>
      rw [removeConnection_of_not_managed managed]
      exact .refl s
  | true =>
      obtain ⟨calls, equal, observer⟩ := removeConnection_eq managed
      rw [equal]
      refine ⟨rfl, _, rfl, fun e member x => ?_⟩
      rcases List.mem_cons.mp member with rfl | call
      · simp
      · rcases observer e call with rfl | rfl <;> simp

theorem removeConnections_quietly (cs : List Conn) (s : ConnectionManager Conn) :
    Quietly s (s.removeConnections cs) := by
  induction cs generalizing s with
  | nil => exact .refl s
  | cons c cs ih => exact (removeConnection_quietly c s).trans (ih _)

theorem dropConnection_quietly (reaction : Reaction Conn) (c : Conn) (s : ConnectionManager Conn) :
    Quietly s (s.dropConnection reaction c) :=
  (Quietly.record fun x => by simp).trans (removeConnections_quietly _ _)

theorem dropConnections_quietly (reaction : Reaction Conn) (pct : Nat → Nat) (s : ConnectionManager Conn) :
    Quietly s (s.dropConnections reaction pct) := by
  have loop : ∀ n (s : ConnectionManager Conn), Quietly s (dropLoop reaction n s) := by
    intro n
    induction n with
    | zero => exact .refl
    | succ n ih =>
        intro s
        rw [dropLoop]
        split
        · exact .refl s
        · exact (removeConnection_quietly _ s).trans ((dropConnection_quietly reaction _ _).trans (ih _))
  have stopped : Quietly s s.stopDrainingForShutdown := .of_eq rfl rfl
  exact stopped.trans (loop _ _)

theorem dropAllConnections_quietly (reaction : Reaction Conn) (s : ConnectionManager Conn) :
    Quietly s (s.dropAllConnections reaction) := by
  have loop : ∀ n (s : ConnectionManager Conn), Quietly s (dropAllLoop reaction n s) := by
    intro n
    induction n with
    | zero => exact .refl
    | succ n ih =>
        intro s
        rw [dropAllLoop]
        split
        · exact .refl s
        · rename_i c conns front
          have popped : Quietly s (record (.removed c) (setManaged c false { s with conns := conns })) :=
            ⟨rfl, [.removed c], rfl, by simp [Quiet]⟩
          exact popped.trans ((dropConnection_quietly reaction c _).trans (ih _))
  have stopped : Quietly s s.stopDrainingForShutdown := .of_eq rfl rfl
  have dropped := stopped.trans (loop s.conns.length s.stopDrainingForShutdown)
  unfold dropAllConnections
  simp only
  split
  · exact dropped.trans ⟨rfl, [.onEmpty], rfl, by simp [Quiet]⟩
  · exact dropped.trans (.of_eq rfl rfl)

theorem dropIdleConnections_quietly (reaction : Reaction Conn) (idleTime : Conn → Int) (num : Nat)
    (s : ConnectionManager Conn) : Quietly s (s.dropIdleConnections reaction idleTime num).2 := by
  refine dropIdleConnections_kept (P := Quietly s) ?_ idleTime num (.refl s)
  intro m c stands quietly
  have advanced : Quietly m { m with idleIterator := next c m.conns } := .of_eq rfl rfl
  exact quietly.trans (advanced.trans (dropConnection_quietly reaction c _))

theorem inserted_quietly (c : Conn) (s : ConnectionManager Conn) : Quietly s (inserted c s) := by
  unfold inserted
  split
  · exact .refl s
  · obtain ⟨calls, equal, observer⟩ := insertConnection_eq c s
    rw [equal]
    refine ⟨rfl, _, rfl, fun e member x => ?_⟩
    rcases List.mem_cons.mp member with rfl | call
    · simp
    · rw [observer e call]
      simp

theorem addConnection_quietly (reaction : Reaction Conn) (c : Conn) (s : ConnectionManager Conn) :
    Quietly (greeted reaction c s) (s.addConnection reaction c) := by
  rw [addConnection_eq]
  split
  · exact .of_eq rfl rfl
  · exact .refl _

/-! ## Changes -/

inductive Change (s s' : ConnectionManager Conn) : Prop
  | effect (effect : Effect s s')
  | quiet (quietly : Quietly s s')

abbrev Changes : ConnectionManager Conn → ConnectionManager Conn → Prop := Relation.ReflTransGen Change

theorem Effects.changes {s s' : ConnectionManager Conn} (effects : Effects s s') : Changes s s' :=
  Relation.ReflTransGen.mono (fun _ _ => Change.effect) s s' effects

theorem step_changes {s s' : ConnectionManager Conn} {op : Op Conn} (wf : WellFormed s)
    (taken : s.step op = .ok s') : Changes s s' := by
  have quietly {s s' : ConnectionManager Conn} (quietly : Quietly s s') : Changes s s' := .single (.quiet quietly)
  cases stepCase taken with
  | turn enters done =>
      obtain ⟨-, seen, rest, m, -, drained, finished⟩ := drainConnections_ok (enters.wellFormed wf) done
      exact (quietly enters.quietly).trans (drained.effects.changes.trans (quietly finished.quietly))
  | initiateIgnored busy => exact .refl
  | drainIgnored busy => exact .refl
  | timeoutIgnored early => exact quietly (.of_eq rfl rfl)
  | @add c reaction =>
      exact (quietly (inserted_quietly c s)).trans
        ((greeted_effects reaction c s).changes.trans (quietly (addConnection_quietly reaction c s)))
  | remove => exact quietly (removeConnection_quietly _ s)
  | @activate c member => exact quietly ⟨rfl, [.activated c], rfl, by simp [Quiet]⟩
  | @deactivate c member => exact quietly ⟨rfl, [.deactivated c], rfl, by simp [Quiet]⟩
  | @pendingAdd c reaction pending linked =>
      have started : Quietly s (linkedAdd s c) := .of_eq rfl rfl
      exact (quietly started).trans (fireCloseWhenIdle_effects reaction c (linkedAdd s c)).changes
  | pendingAddUnlinked pending unlinked => exact quietly (.of_eq rfl rfl)
  | dropConnections => exact quietly (dropConnections_quietly _ _ s)
  | dropAll => exact quietly (dropAllConnections_quietly _ s)
  | dropIdle => exact quietly (dropIdleConnections_quietly _ _ _ s)

theorem Change.trace {s s' : ConnectionManager Conn} (change : Change s s') : s.trace <+: s'.trace := by
  cases change with
  | effect effect =>
      cases effect with
      | remove c managed =>
          obtain ⟨more, grown, -⟩ := (removeConnection_quietly c s).trace
          exact ⟨more, grown.symm⟩
      | notify c fresh => exact List.prefix_append _ _
      | close c due => exact List.prefix_append _ _
      | drop c => exact List.prefix_append _ _
  | quiet quietly =>
      obtain ⟨more, grown, -⟩ := quietly.trace
      exact ⟨more, grown.symm⟩

theorem Changes.trace {s s' : ConnectionManager Conn} (changes : Changes s s') : s.trace <+: s'.trace := by
  induction changes with
  | refl => exact List.prefix_rfl
  | tail _ change ih => exact ih.trans change.trace

/-! ## Who has been told to close -/

def Recorded (s : ConnectionManager Conn) : Prop :=
  ∀ c, .closeWhenIdle c ∈ s.trace ↔ s.drainState c = .sentCloseWhenIdle

omit [DecidableEq Conn] in
theorem Quietly.recorded {s s' : ConnectionManager Conn} (quietly : Quietly s s') (recorded : Recorded s) :
    Recorded s' := by
  intro c
  obtain ⟨more, grown, quiet⟩ := quietly.trace
  rw [quietly.drainState, grown, List.mem_append, recorded c]
  exact or_iff_left fun member => (quiet _ member c).2 rfl

theorem Change.recorded {s s' : ConnectionManager Conn} (change : Change s s') (recorded : Recorded s) :
    Recorded s' := by
  cases change with
  | quiet quietly => exact quietly.recorded recorded
  | effect effect =>
      cases effect with
      | remove c managed => exact (removeConnection_quietly c s).recorded recorded
      | notify c fresh =>
          intro x
          by_cases same : x = c
          · simp [record, setDrainState, same, recorded c, fresh]
          · simp [record, setDrainState, same, recorded x]
      | close c due =>
          intro x
          by_cases same : x = c
          · simp [record, setDrainState, same]
          · simp [record, setDrainState, same, recorded x]
      | drop c =>
          intro x
          simp [record, recorded x]

theorem Changes.recorded {s s' : ConnectionManager Conn} (changes : Changes s s') (recorded : Recorded s) :
    Recorded s' := by
  induction changes with
  | refl => exact recorded
  | tail _ change ih => exact change.recorded ih

omit [DecidableEq Conn] in
theorem init_recorded (timeout : Int) (hasCallback : Bool) :
    Recorded (init timeout hasCallback : ConnectionManager Conn) := by
  simp [Recorded, init]

end Wangle.Proof.Acceptor
