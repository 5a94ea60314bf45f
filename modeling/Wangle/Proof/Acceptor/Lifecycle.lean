import Wangle.Proof.Acceptor.Outcomes

/-!
# The acceptor runs, drains and is done
-/

namespace Wangle.Proof.Acceptor
open Wangle.Acceptor Wangle.Transition

variable {Conn : Type} {a b : Acceptor Conn}

def followed (state : AcceptorState) : AcceptorEvent → AcceptorState
  | .entered state' _ _ => state'
  | _ => state

def phase (events : List AcceptorEvent) : AcceptorState := events.foldl followed .running

def Permitted (state : AcceptorState) : AcceptorEvent → Prop
  | .entered state' connections pending => state ≤ state' ∧ (state' = .done → connections = 0 ∧ pending = 0)
  | .onNewConnection _ _ => ¬ .draining ≤ state
  | _ => True

structure Lifecycle (a : Acceptor Conn) : Prop where
  state : a.state = phase a.trace
  manager : a.downstreamConnectionManager.isSome = true ↔ a.state ≠ .done
  forward : Lawful (fun past => Permitted (phase past)) [] a.trace

def Unobtrusive : AcceptorEvent → Prop
  | .entered _ _ _ => False
  | .onNewConnection _ _ => False
  | _ => True

theorem phase_append_of_unobtrusive {events more : List AcceptorEvent} (unobtrusive : ∀ e ∈ more, Unobtrusive e) :
    phase (events ++ more) = phase events := by
  induction more generalizing events with
  | nil => rw [List.append_nil]
  | cons e more ih =>
      have first := unobtrusive e List.mem_cons_self
      have rest : phase (events ++ [e] ++ more) = phase (events ++ [e]) :=
        ih fun e member => unobtrusive e (List.mem_cons_of_mem _ member)
      rw [List.append_assoc, List.singleton_append] at rest
      rw [rest, phase, List.foldl_append]
      cases e <;> first | exact first.elim | rfl

theorem Lifecycle.extend (lifecycle : Lifecycle a) (more : List AcceptorEvent) (unobtrusive : ∀ e ∈ more, Unobtrusive e)
    (trace : b.trace = a.trace ++ more) (state : b.state = a.state)
    (manager : b.downstreamConnectionManager.isSome = a.downstreamConnectionManager.isSome) : Lifecycle b := by
  refine ⟨?_, ?_, ?_⟩
  · rw [state, trace, phase_append_of_unobtrusive unobtrusive, lifecycle.state]
  · rw [manager, state, lifecycle.manager]
  · rw [trace, lawful_append]
    refine ⟨lifecycle.forward, lawful_of_forall fun past e member => ?_⟩
    have quiet := unobtrusive e member
    cases e <;> first | exact quiet.elim | trivial

theorem le_done (state : AcceptorState) : state ≤ .done := by
  cases state <;> decide

structure Underway (a : Acceptor Conn) : Prop extends Lifecycle a where
  tended : ∀ m, a.downstreamConnectionManager = some m → Tended m

namespace Underway

theorem steady (underway : Underway a) : Steady a := ⟨underway.manager, underway.tended⟩

theorem extend (underway : Underway a) (more : List AcceptorEvent) (unobtrusive : ∀ e ∈ more, Unobtrusive e)
    (trace : b.trace = a.trace ++ more) (state : b.state = a.state)
    (manager : b.downstreamConnectionManager = a.downstreamConnectionManager) : Underway b :=
  ⟨underway.toLifecycle.extend more unobtrusive trace state (by rw [manager]), manager ▸ underway.tended⟩

theorem record (underway : Underway a) (e : AcceptorEvent) (unobtrusive : Unobtrusive e) : Underway (a.record e) :=
  underway.extend [e] (by simpa using unobtrusive) rfl rfl rfl

theorem enter (underway : Underway a) {state : AcceptorState} {connections pending : Nat} (forward : a.state ≤ state)
    (empty : state = .done → connections = 0 ∧ pending = 0)
    (trace : b.trace = a.trace ++ [.entered state connections pending]) (entered : b.state = state)
    (manager : b.downstreamConnectionManager = if state = .done then none else a.downstreamConnectionManager)
    (unfinished : state ≠ .done → a.state ≠ .done) : Underway b := by
  have last : phase b.trace = state := by simp [trace, phase, followed]
  have onward : phase a.trace ≤ state := by rwa [← underway.state]
  refine ⟨⟨entered.trans last.symm, ?_, ?_⟩, ?_⟩
  · rw [manager, entered]
    split
    · rename_i done
      simp [done]
    · rename_i before
      exact iff_of_true (underway.manager.mpr (unfinished before)) before
  · rw [trace, lawful_append]
    exact ⟨underway.forward, ⟨onward, empty⟩, trivial⟩
  · rw [manager]
    split
    · intro m present
      cases present
    · exact underway.tended

theorem settled (underway : Underway a) : Underway (settled a) := by
  refine settled_rule (fun drainable => ?_) fun _ => underway
  have entered : Underway (a.enter .done).resetManager :=
    underway.enter (le_done _) (fun _ => drainable.2.2) rfl rfl rfl nofun
  exact entered.record .onConnectionsDrained trivial

theorem readied (underway : Underway a) (result : Report) : Underway (readied result a) := by
  refine readied_rule result underway fun nextProtocol secureTransportType running => ?_
  have allowed : ¬ .draining ≤ phase a.trace := underway.state ▸ running
  refine ⟨⟨?_, underway.manager, ?_⟩, underway.tended⟩
  · simpa [Acceptor.record, phase, followed] using underway.state
  · rw [Acceptor.record, lawful_append]
    exact ⟨underway.forward, allowed, trivial⟩

theorem scheduleTimeout (underway : Underway a) (h : Nat) (timeout : Int) : Underway (a.scheduleTimeout h timeout) :=
  scheduleTimeout_rule h timeout underway (underway.extend [.scheduledTimeout h] (by simp [Unobtrusive]) rfl rfl rfl)

theorem timed (underway : Underway a) (h : Nat) : Underway (timed h a) :=
  (underway.record (.usesManager h) trivial).scheduleTimeout h _

theorem stopped (underway : Underway a) : Underway (stopped a) := by
  refine stopped_rule underway fun unfinished => ?_
  have forward : a.state ≤ .draining := by
    revert unfinished
    cases a.state <;> decide
  have entered : Underway (a.enter .draining) := underway.enter forward nofun rfl rfl rfl fun _ => unfinished
  exact entered.settled

theorem finish (underway : Underway a) (trace : b.trace = a.trace) (null : b.downstreamConnectionManager = none)
    (pending : b.numPendingSSLConns = 0) : Underway ((b.enter .done).record .onConnectionsDrained) := by
  have empty : b.getNumConnections = 0 := by simp [Acceptor.getNumConnections, null]
  have entered : Underway (b.enter .done) := by
    refine underway.enter (le_done _) (fun _ => ⟨empty, pending⟩) ?_ rfl ?_ nofun
    · simp [Acceptor.enter, Acceptor.record, trace]
    · simp [Acceptor.enter, Acceptor.record, null]
  exact entered.record .onConnectionsDrained trivial

variable {m m' : ConnectionManager (Managed Conn)}

theorem managed (underway : Underway a) (manager : a.downstreamConnectionManager = some m) (tended : Tended m')
    (more : List AcceptorEvent) (unobtrusive : ∀ e ∈ more, Unobtrusive e) (trace : b.trace = a.trace ++ more)
    (state : b.state = a.state) (replaced : b.downstreamConnectionManager = some m') : Underway b := by
  refine ⟨underway.toLifecycle.extend more unobtrusive trace state ?_, ?_⟩
  · rw [manager, replaced]
    rfl
  · intro m present
    rw [replaced] at present
    cases present
    exact tended

variable [DecidableEq Conn]

theorem called (underway : Underway a) (manager : a.downstreamConnectionManager = some m) (tended : Tended m') :
    Underway (called m' a) := by
  have replaced : Underway { a with downstreamConnectionManager := some m' } :=
    underway.managed manager tended [] (by simp) (by simp) rfl rfl
  exact called_rule (fun _ => replaced.settled) fun _ => replaced

theorem joined (underway : Underway a) (manager : a.downstreamConnectionManager = some m) : Underway (joined m a) := by
  have tended := host_tended (underway.tended m manager) a.nextHandshake
  have joining : Underway (joining m a) :=
    underway.managed manager tended [.started a.nextHandshake, .usesManager a.nextHandshake] (by simp [Unobtrusive])
      (by simp [Acceptor.joining]) rfl rfl
  exact joining.scheduleTimeout _ _

theorem unlinked (underway : Underway a) (manager : a.downstreamConnectionManager = some m) (h : Nat) :
    Underway (unlinked h m a) := by
  refine underway.managed manager ((underway.tended m manager).removed h)
    (.usesManager h :: ((if m.isManaged (.handshake h) then [.left h] else []) ++ [.reported h])) ?_ ?_ rfl rfl
  · split <;> simp [Unobtrusive]
  · simp [Acceptor.unlinked, Acceptor.record, gone]

end Underway

/-! ## Operations -/

abbrev Safely : Except Acceptor.Fault (Acceptor Conn) → Prop := Yields (· = .drainedCheck) Underway

variable [DecidableEq Conn] {m m' : ConnectionManager (Managed Conn)}

theorem Reported.safely {h : Nat} {result : Report} {reply : Except Acceptor.Fault (Acceptor Conn)}
    (reported : Reported h result a reply) (underway : Underway a) : Safely reply := by
  cases reported with
  | null null => exact nofun
  | uncounted none => exact nofun
  | done manager pending => exact ((underway.unlinked manager h).readied result).settled

theorem swept_safely (late : Nat → Bool) (underway : Underway a) (manager : a.downstreamConnectionManager = some m)
    (tended : Tended m') : Safely (swept late m' a) := by
  refine swept_rule (I := fun a _ => Underway a) ?_ ?_
  · intro a e events reply underway heard
    cases heard with
    | spared spared => exact underway
    | @left h => exact underway.extend [.left h] (by simp [Unobtrusive]) rfl rfl rfl
    | destroyed destroyed => exact nofun
    | late member isLate => exact underway.record _ trivial
    | null null => exact nofun
    | uncounted member none => exact nofun
    | @dropped h m member prompt manager pending =>
        have dropped : Underway (a.record (.dropped h)) := underway.record _ trivial
        exact dropped.unlinked manager h
  · exact underway.managed manager tended [] (by simp) (by simp) rfl rfl

theorem Outcome.safely {op : AcceptorOp Conn} {reply : Except Acceptor.Fault (Acceptor Conn)}
    (ending : Outcome a op reply) (underway : Underway a) : Safely reply := by
  have elapsed (h : Nat) : Underway (elapsed h a) :=
    underway.extend [.timeoutExpired h] (by simp [Unobtrusive]) rfl rfl rfl
  cases ending with
  | failed innocent =>
      rintro rfl
      exact innocent
  | ready => exact underway.readied (.connectionReady "" .none none)
  | refused full => exact underway.settled
  | unmanaged room null => exact nofun
  | started room manager => exact (underway.joined manager).timed _
  | startedAtOnce room manager left =>
      have completed := (underway.joined manager).record (.completed a.nextHandshake) trivial
      exact ((completed.unlinked (scheduleTimeout_manager _ _ _) _).readied _).settled.timed _
  | completed member reported => exact reported.safely (underway.record _ trivial)
  | destroyed scheduled destroyed => exact nofun
  | expiredLate scheduled member => exact elapsed _
  | expired scheduled member reported => exact reported.safely (elapsed _)
  | ignored => exact underway
  | managed manager tended spares => exact underway.called manager tended
  | stoppedAgain null => exact underway.stopped
  | stopped manager tended spares => exact (underway.called manager tended).stopped
  | dropped manager tended sweeps => exact swept_safely _ underway manager tended
  | droppedAllAgain null pending => exact underway.finish rfl null pending
  | droppedAllUncounted null pending => exact nofun
  | droppedAllFailed manager tended sweeps failed =>
      exact failed ▸ swept_safely _ underway manager tended
  | droppedAllPending manager tended sweeps empty heard pending => exact nofun
  | droppedAll manager tended sweeps empty heard pending =>
      exact ((swept_safely _ underway manager tended).of_ok heard).finish rfl rfl pending

theorem step_safely (a : Acceptor Conn) (op : AcceptorOp Conn) (underway : Underway a) : Safely (a.step op) :=
  (outcome underway.steady op).safely underway

omit [DecidableEq Conn] in
theorem initialised_underway (config : AcceptorConfig) (gracefulShutdownTimeout : Int) :
    Underway (Acceptor.initialised config gracefulShutdownTimeout : Acceptor Conn) := by
  refine ⟨⟨rfl, iff_of_true rfl nofun, trivial⟩, ?_⟩
  intro m present
  cases present
  exact ⟨init_wellFormed _ _, rfl⟩

theorem run_yields {I : Acceptor Conn → Prop} {P : Acceptor Conn → AcceptorOp Conn → Prop}
    {bad : Acceptor.Fault → Prop} (kept : ∀ a op, Underway a → I a → P a op → Yields bad I (a.step op))
    {config : AcceptorConfig} {gracefulShutdownTimeout : Int}
    (start : I (Acceptor.initialised config gracefulShutdownTimeout)) {ops : List (AcceptorOp Conn)}
    (along : Along Acceptor.step P (Acceptor.initialised config gracefulShutdownTimeout) ops) :
    Yields bad I (Acceptor.run (Acceptor.initialised config gracefulShutdownTimeout) ops) := by
  have both := yields_run (I := fun a => I a ∧ Underway a) (fun a op holds permitted =>
    ((kept a op holds.2 holds.1 permitted).and (step_safely a op holds.2)).fewer fun _ => .inl)
    ⟨start, initialised_underway config gracefulShutdownTimeout⟩ along
  exact both.imp fun a holds => holds.1

theorem run_lifecycle (config : AcceptorConfig) (gracefulShutdownTimeout : Int) (ops : List (AcceptorOp Conn)) :
    Acceptor.run (Acceptor.initialised config gracefulShutdownTimeout) ops ≠ .error .drainedCheck ∧
      ∀ a, Acceptor.run (Acceptor.initialised config gracefulShutdownTimeout) ops = .ok a → Lifecycle a := by
  have safely := yields_run_all step_safely (initialised_underway config gracefulShutdownTimeout) ops
  exact ⟨safely.ne_error rfl, fun a done => (safely.of_ok done).toLifecycle⟩

end Wangle.Proof.Acceptor
