import Wangle.Proof.Acceptor.Callbacks
import Wangle.Acceptor.Transfer

/-!
# What the observer of a manager is told
-/

namespace Wangle.Proof.Acceptor
open Wangle.Acceptor Wangle.Intrusive Wangle.Transition ConnectionManager

section Calls
variable {Conn : Type}

def isCall : Event Conn → Bool
  | .onConnectionAdded => true
  | .onConnectionRemoved => true
  | .onEmpty => true
  | _ => false

def counted (n : Nat) : Event Conn → Nat
  | .added _ => n + 1
  | .removed _ => n - 1
  | _ => n

def owed (n : Nat) : Event Conn → List (Event Conn)
  | .added _ => [.onConnectionAdded]
  | .removed _ => if n = 1 then [.onConnectionRemoved, .onEmpty] else [.onConnectionRemoved]
  | _ => []

def population (n : Nat) (events : List (Event Conn)) : Nat := events.foldl counted n

def due : Nat → List (Event Conn) → List (Event Conn)
  | _, [] => []
  | n, event :: events => owed n event ++ due (counted n event) events

theorem due_append (n : Nat) (events more : List (Event Conn)) :
    due n (events ++ more) = due n events ++ due (population n events) more := by
  induction events generalizing n with
  | nil => rfl
  | cons event events ih => simp only [List.cons_append, due, ih, population, List.foldl_cons, List.append_assoc]

theorem population_append (n : Nat) (events more : List (Event Conn)) :
    population n (events ++ more) = population (population n events) more :=
  List.foldl_append

end Calls

variable {Conn : Type} [DecidableEq Conn] {s s' : ConnectionManager Conn}

/-- The observer has been told of every connection that came or went, and that there is none left exactly
when the last one had gone. -/
structure Accounted (s : ConnectionManager Conn) : Prop where
  balance : s.trace.count .onConnectionAdded = s.trace.count .onConnectionRemoved + s.conns.length
  calls : s.trace.filter isCall = due 0 s.trace

structure Booked (s : ConnectionManager Conn) : Prop extends Listed s, Accounted s where
  observed : s.hasCallback = true
  population : population 0 s.trace = s.conns.length

structure Settles (n : Nat) (more : List (Event Conn)) (n' : Nat) : Prop where
  balance : n + more.count .onConnectionAdded = more.count .onConnectionRemoved + n'
  calls : more.filter isCall = due n more
  population : population n more = n'

theorem Booked.extend (booked : Booked s) (more : List (Event Conn)) (listed : Listed s')
    (observed : s'.hasCallback = s.hasCallback) (trace : s'.trace = s.trace ++ more)
    (settles : Settles s.conns.length more s'.conns.length) : Booked s' := by
  refine ⟨listed, ⟨?_, ?_⟩, observed.trans booked.observed, ?_⟩
  · have before := booked.balance
    have change := settles.balance
    rw [trace, List.count_append, List.count_append]
    omega
  · rw [trace, List.filter_append, due_append, booked.calls, booked.population, settles.calls]
  · rw [trace, population_append, booked.population, settles.population]

theorem Settles.of_quiet {e : Event Conn} (n : Nat) (call : isCall e = false) (same : ∀ n, counted n e = n)
    (nothing : ∀ n, owed n e = []) : Settles n [e] n := by
  refine ⟨?_, ?_, same n⟩
  · have added : e ≠ .onConnectionAdded := fun equal => by simp [equal, isCall] at call
    have removed : e ≠ .onConnectionRemoved := fun equal => by simp [equal, isCall] at call
    simp [added, removed]
  · simp [call, due, nothing n]

theorem removed_settles (c : Conn) {n : Nat} (some : 0 < n) :
    Settles n (.removed c ::
      (if n - 1 = 0 then [.onConnectionRemoved, .onEmpty] else [.onConnectionRemoved] : List (Event Conn))) (n - 1) := by
  by_cases last : n = 1
  · subst last
    exact ⟨rfl, rfl, rfl⟩
  · have more : ¬ n - 1 = 0 := by omega
    simp only [more, if_false]
    refine ⟨?_, ?_, rfl⟩
    · simp
      omega
    · simp [isCall, due, owed, last]

theorem removeConnection_booked (booked : Booked s) (c : Conn) : Booked (s.removeConnection c) := by
  cases managed : s.isManaged c with
  | false => rwa [removeConnection_of_not_managed managed]
  | true =>
      have member := (booked.managed c).mp managed
      have listed := booked.toListed.removeConnection c
      have length : (s.removeConnection c).conns.length = s.conns.length - 1 := by
        rw [removeConnection_conns booked.toListed, List.length_erase_of_mem member]
      have trace := removeConnection_observed booked.observed managed
      rw [List.length_erase_of_mem member] at trace
      refine booked.extend _ listed (removeConnection_effects c s).sameDrain.hasCallback trace ?_
      rw [length]
      exact removed_settles c (List.length_pos_of_mem member)

theorem record_booked {e : Event Conn} (booked : Booked s) (call : isCall e = false) (same : ∀ n, counted n e = n)
    (nothing : ∀ n, owed n e = []) : Booked (s.record e) :=
  booked.extend [e] ⟨booked.nodup, booked.managed⟩ rfl rfl (.of_quiet _ call same nothing)

theorem booked_stable : Stable (fun _ => True) (Booked : ConnectionManager Conn → Prop) where
  same booked alike := by
    refine ⟨⟨?_, ?_⟩, ⟨?_, ?_⟩, ?_, ?_⟩
    · exact alike.conns ▸ booked.nodup
    · exact alike.conns ▸ alike.managed ▸ booked.managed
    · exact alike.conns ▸ alike.trace ▸ booked.balance
    · exact alike.trace ▸ booked.calls
    · exact alike.hasCallback ▸ booked.observed
    · exact alike.conns ▸ alike.trace ▸ booked.population
  notify _ booked := record_booked booked rfl (fun _ => rfl) (fun _ => rfl)
  close _ booked := record_booked booked rfl (fun _ => rfl) (fun _ => rfl)
  remove c _ booked := removeConnection_booked booked c

theorem dropped_booked (c : Conn) (booked : Booked s) : Booked (s.record (.dropConnection c)) :=
  record_booked booked rfl (fun _ => rfl) (fun _ => rfl)

theorem inserted_booked (booked : Booked s) (wf : WellFormed s) (c : Conn) : Booked (inserted c s) := by
  have listed := (inserted_wellFormed wf c).toListed
  cases managed : s.isManaged c with
  | true => simpa [inserted, managed] using booked
  | false =>
      have equal : inserted c s =
          record .onConnectionAdded (record (.added c) (setManaged c true { s with conns := c :: s.conns })) := by
        simp [inserted, managed, insertConnection, record, setManaged, booked.observed]
      rw [equal] at listed ⊢
      refine booked.extend [.added c, .onConnectionAdded] listed rfl (by simp [record, setManaged]) ?_
      exact ⟨by simp [record, setManaged], rfl, rfl⟩

theorem step_booked {op : Op Conn} (wf : WellFormed s) (booked : Booked s)
    (kept : ∀ reaction, op ≠ .dropAllConnections reaction) (taken : s.step op = .ok s') : Booked s' := by
  have listed := (step_wellFormed wf taken).toListed
  cases stepCase taken with
  | turn enters done => exact booked_stable.turn (fun _ _ _ => trivial) enters booked done
  | initiateIgnored busy => exact booked
  | drainIgnored busy => exact booked
  | timeoutIgnored early => exact booked_stable.same booked ⟨rfl, rfl, rfl, rfl⟩
  | add => exact booked_stable.addConnection (fun _ _ => trivial) (inserted_booked booked wf _)
  | remove => exact removeConnection_booked booked _
  | @activate c member =>
      have length : (c :: s.conns.erase c).length = s.conns.length := (List.perm_cons_erase member).length_eq.symm
      refine booked.extend [.activated c] listed rfl rfl ?_
      exact length.symm ▸ .of_quiet _ rfl (fun _ => rfl) (fun _ => rfl)
  | @deactivate c member =>
      have length : (s.conns.erase c ++ [c]).length = s.conns.length := by
        rw [List.length_append]
        exact (List.perm_cons_erase member).length_eq.symm
      refine booked.extend [.deactivated c] listed rfl rfl ?_
      exact length.symm ▸ .of_quiet _ rfl (fun _ => rfl) (fun _ => rfl)
  | pendingAdd pending linked =>
      exact booked_stable.fireCloseWhenIdle _ _ (fun _ _ => trivial) (booked_stable.same booked ⟨rfl, rfl, rfl, rfl⟩)
  | pendingAddUnlinked pending unlinked => exact booked_stable.same booked ⟨rfl, rfl, rfl, rfl⟩
  | dropConnections => exact booked_stable.dropConnections dropped_booked _ booked
  | dropAll => exact absurd rfl (kept _)
  | dropIdle => exact booked_stable.dropIdleConnections (fun _ _ _ => trivial) dropped_booked _ _ booked

/-! ## Dropping all connections -/

structure Owing (s : ConnectionManager Conn) : Prop extends Listed s where
  observed : s.hasCallback = true
  owes : s.trace.count .onConnectionRemoved + s.conns.length < s.trace.count .onConnectionAdded

theorem removeConnection_owing (owing : Owing s) (c : Conn) : Owing (s.removeConnection c) := by
  cases managed : s.isManaged c with
  | false => rwa [removeConnection_of_not_managed managed]
  | true =>
      have member := (owing.managed c).mp managed
      have length := List.length_erase_of_mem member
      have some := List.length_pos_of_mem member
      have owes := owing.owes
      refine ⟨owing.toListed.removeConnection c,
        (removeConnection_effects c s).sameDrain.hasCallback.trans owing.observed, ?_⟩
      rw [removeConnection_conns owing.toListed, removeConnection_observed owing.observed managed]
      split
      · simp
        omega
      · simp
        omega

theorem record_owing {e : Event Conn} (owing : Owing s) (added : e ≠ .onConnectionAdded)
    (removed : e ≠ .onConnectionRemoved) : Owing (s.record e) := by
  refine ⟨⟨owing.nodup, owing.managed⟩, owing.observed, ?_⟩
  simpa [record, added, removed] using owing.owes

theorem owing_stable : Stable (fun _ => True) (Owing : ConnectionManager Conn → Prop) where
  same owing alike := by
    refine ⟨⟨?_, ?_⟩, ?_, ?_⟩
    · exact alike.conns ▸ owing.nodup
    · exact alike.conns ▸ alike.managed ▸ owing.managed
    · exact alike.hasCallback ▸ owing.observed
    · exact alike.conns ▸ alike.trace ▸ owing.owes
  notify _ owing := record_owing owing nofun nofun
  close _ owing := record_owing owing nofun nofun
  remove c _ owing := removeConnection_owing owing c

theorem popped_owing {c : Conn} {conns : List Conn} (listed : Listed s) (observed : s.hasCallback = true)
    (owes : s.trace.count .onConnectionRemoved + s.conns.length ≤ s.trace.count .onConnectionAdded)
    (front : s.conns = c :: conns) :
    Owing (record (.removed c) (setManaged c false { s with conns := conns })) := by
  refine ⟨popped_listed listed front, observed, ?_⟩
  rw [front, List.length_cons] at owes
  simp [record, setManaged]
  omega

theorem dropped_owing (c : Conn) (owing : Owing s) : Owing (s.record (.dropConnection c)) :=
  record_owing owing (by simp) (by simp)

theorem dropAllLoop_owing (reaction : Reaction Conn) {n : Nat} (owing : Owing s) :
    Owing (dropAllLoop reaction n s) := by
  induction n generalizing s with
  | zero => exact owing
  | succ n ih =>
      rw [dropAllLoop]
      split
      · exact owing
      · rename_i c conns front
        have popped := popped_owing owing.toListed owing.observed (Nat.le_of_lt owing.owes) front
        exact ih (owing_stable.dropConnection (fun _ _ _ => trivial) dropped_owing c popped)

theorem Owing.not_accounted (owing : Owing s) : ¬ Accounted s := by
  intro accounted
  have owes := owing.owes
  have balance := accounted.balance
  omega

theorem onEmpty_not_accounted (booked : Booked s) (trace : s'.trace = s.trace ++ [.onEmpty]) : ¬ Accounted s' := by
  intro accounted
  have calls := accounted.calls
  rw [trace, List.filter_append, due_append, booked.calls] at calls
  exact List.cons_ne_nil _ _ (List.append_cancel_left calls)

theorem dropAllConnections_not_accounted (reaction : Reaction Conn) (booked : Booked s) :
    ¬ Accounted (s.dropAllConnections reaction) := by
  have stopped : Booked s.stopDrainingForShutdown := booked_stable.same booked ⟨rfl, rfl, rfl, rfl⟩
  cases front : s.conns with
  | nil =>
      refine onEmpty_not_accounted booked ?_
      simp [dropAllConnections, stopDrainingForShutdown, front, dropAllLoop, record, booked.observed]
  | cons c conns =>
      have popped := popped_owing stopped.toListed stopped.observed (Nat.le_of_eq stopped.balance.symm) front
      have conns_eq : s.stopDrainingForShutdown.conns = c :: conns := front
      have loop : Owing (dropAllLoop reaction s.stopDrainingForShutdown.conns.length s.stopDrainingForShutdown) := by
        rw [conns_eq, List.length_cons, dropAllLoop]
        simp only [conns_eq]
        exact dropAllLoop_owing reaction
          (owing_stable.dropConnection (fun _ _ _ => trivial) dropped_owing c popped)
      unfold dropAllConnections
      simp only
      rw [if_pos loop.observed]
      refine Owing.not_accounted (record_owing ?_ (by simp) (by simp))
      exact owing_stable.same loop ⟨rfl, rfl, rfl, rfl⟩

/-! ## Several managers -/

section Managers
open Managers

variable {Mgr : Type} [DecidableEq Mgr] {t t' : Managers Mgr Conn}

structure Kept (s : ConnectionManager Conn) : Prop where
  wellFormed : WellFormed s
  booked : Booked s

theorem Kept.alike (kept : Kept s) (states : Conn → DrainState) : Kept { s with drainState := states } :=
  ⟨kept.wellFormed.of_eq rfl rfl rfl rfl, booked_stable.same kept.booked ⟨rfl, rfl, rfl, rfl⟩⟩

theorem runs_kept {m : Mgr} {call : ConnectionManager Conn → Except Stuck (ConnectionManager Conn)}
    (kept : ∀ m, Kept (t.manager m)) (keeps : ∀ s s', Kept s → call s = .ok s' → Kept s')
    (ran : t.runs m call = .ok t') : ∀ m, Kept (t'.manager m) := by
  unfold runs at ran
  split at ran
  · cases ran
  · rename_i s' called
    cases ran
    intro m'
    by_cases same : m' = m
    · subst same
      simpa using keeps _ s' ((kept m').alike t.drainState) called
    · simpa [same] using kept m'

theorem step_keeps (op : Op Conn) (permitted : ∀ reaction, op ≠ .dropAllConnections reaction)
    (s s' : ConnectionManager Conn) (kept : Kept s) (taken : s.step op = .ok s') : Kept s' :=
  ⟨step_wellFormed kept.wellFormed taken, step_booked kept.wellFormed kept.booked permitted taken⟩

theorem fireCloseWhenIdle_kept (reaction : Reaction Conn) (forceToClose : Bool) (c : Conn) (kept : Kept s) :
    Kept (s.fireCloseWhenIdle reaction forceToClose c) := by
  refine ⟨?_, booked_stable.fireCloseWhenIdle forceToClose c (fun _ _ => trivial) kept.booked⟩
  unfold fireCloseWhenIdle
  split
  · exact (removeConnections_effects _ _).wellFormed (kept.wellFormed.of_eq rfl rfl rfl rfl)
  · exact kept.wellFormed

theorem addConnection_kept {reaction : Reaction Conn} {m : Mgr} {c : Conn} (kept : ∀ m, Kept (t.manager m))
    (added : t.addConnection reaction m c = .ok t') : ∀ m, Kept (t'.manager m) := by
  have add (s s' : ConnectionManager Conn) (kept : Kept s) (taken : .ok (s.addConnection reaction c) = Except.ok s') :
      Kept s' :=
    step_keeps (.addConnection c reaction) nofun s s' kept taken
  have remove (s s' : ConnectionManager Conn) (kept : Kept s) (taken : .ok (s.removeConnection c) = Except.ok s') :
      Kept s' :=
    step_keeps (.removeConnection c) nofun s s' kept taken
  unfold Managers.addConnection at added
  split at added
  · exact runs_kept kept add added
  · split at added
    · exact runs_kept kept add added
    · split at added
      · cases added
      · rename_i left removed
        exact runs_kept (runs_kept kept remove removed) add added

theorem runPendingAdd_kept {reaction : Reaction Conn} {m : Mgr} {c : Conn} (kept : ∀ m, Kept (t.manager m))
    (ran : t.runPendingAdd reaction m c = .ok t') : ∀ m, Kept (t'.manager m) := by
  unfold Managers.runPendingAdd at ran
  split at ran
  · split at ran
    · cases ran
    · rename_i mid erased
      have between : ∀ m, Kept (mid.manager m) := by
        refine runs_kept kept (fun s s' kept taken => ?_) erased
        cases taken
        exact ⟨kept.wellFormed.of_eq rfl rfl rfl rfl, booked_stable.same kept.booked ⟨rfl, rfl, rfl, rfl⟩⟩
      split at ran
      · cases ran
        exact between
      · refine runs_kept between (fun s s' kept taken => ?_) ran
        cases taken
        exact fireCloseWhenIdle_kept reaction _ c kept
  · cases ran

theorem step_kept {op : Mgr × Op Conn} (kept : ∀ m, Kept (t.manager m))
    (permitted : ∀ reaction, op.2 ≠ .dropAllConnections reaction) (taken : t.step op = .ok t') :
    ∀ m, Kept (t'.manager m) := by
  obtain ⟨m, op⟩ := op
  cases op with
  | addConnection c reaction => exact addConnection_kept kept taken
  | runPendingAdd c reaction => exact runPendingAdd_kept kept taken
  | _ => exact runs_kept kept (step_keeps _ permitted) taken

omit [DecidableEq Mgr] in
theorem init_kept (timeout : Mgr → Int) (m : Mgr) : Kept ((Managers.init timeout : Managers Mgr Conn).manager m) :=
  ⟨init_wellFormed _ _, (init_wellFormed _ _).toListed, ⟨rfl, rfl⟩, rfl, rfl⟩

/-- The accounts of all managers are right all along exactly the runs without `dropAllConnections`. -/
theorem run_accounted_iff (timeout : Mgr → Int) (ops : List (Mgr × Op Conn)) :
    (∀ front t, front <+: ops → (Managers.init timeout).run front = .ok t → ∀ m, Accounted (t.manager m)) ↔
      Along Managers.step (fun _ op => ∀ reaction, op.2 ≠ .dropAllConnections reaction) (Managers.init timeout) ops := by
  refine always_iff_along (I := fun t : Managers Mgr Conn => ∀ m, Kept (t.manager m))
    (Q := fun t : Managers Mgr Conn => ∀ m, Accounted (t.manager m))
    (fun t op t' kept permitted taken => step_kept kept permitted taken) ?_
    (fun t kept m => (kept m).booked.toAccounted) (init_kept timeout)
  intro t op kept forbidden
  obtain ⟨m, op⟩ := op
  obtain ⟨reaction, dropped⟩ := Classical.not_forall.mp forbidden
  obtain rfl := Classical.not_not.mp dropped
  refine ⟨_, rfl, fun accounted => ?_⟩
  have broken := accounted m
  simp only [Function.update_self] at broken
  exact dropAllConnections_not_accounted reaction ((kept m).alike t.drainState).booked broken

theorem dropAllConnections_unreported :
    ∃ t, (Managers.init fun _ => 0 : Managers Bool Nat).run
        [(true, .addConnection 7 fun _ => []), (true, .dropAllConnections fun _ => [])] = .ok t ∧
      ¬ Accounted (t.manager true) :=
  ⟨_, rfl, fun accounted => absurd accounted.balance (by decide)⟩

end Managers
end Wangle.Proof.Acceptor
