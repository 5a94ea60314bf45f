import Wangle.Proof.Acceptor.Settling

/-!
# What the connection manager does with handshake managers

Handshake managers do nothing in their callbacks, and connections do not remove them. So only the drops take
handshake managers out of the list, and tell each of them.
-/

namespace Wangle.Proof.Acceptor
open Wangle.Acceptor Wangle.Intrusive Wangle.Transition ConnectionManager

variable {Conn : Type}

def IsConnection : Managed Conn → Prop
  | .connection _ => True
  | .handshake _ => False

def Polite (reaction : Reaction (Managed Conn)) : Prop := ∀ c, ∀ x ∈ reaction c, IsConnection x

theorem react_polite (reaction : Reaction Conn) : Polite (Acceptor.react reaction) := by
  intro c x member
  cases c with
  | connection c =>
      obtain ⟨y, -, rfl⟩ := List.mem_map.mp member
      trivial
  | handshake h => cases member

def Routine : Op (Managed Conn) → Prop
  | .addConnection c reaction => IsConnection c ∧ Polite reaction
  | .removeConnection c => IsConnection c
  | .onActivated _ => True
  | .onDeactivated _ => True
  | .initiateGracefulShutdown _ reaction => Polite reaction
  | .drainConnections _ _ reaction => Polite reaction
  | .runLoopCallback reaction => Polite reaction
  | .timeoutExpired reaction => Polite reaction
  | .runPendingAdd _ reaction => Polite reaction
  | .dropConnections _ _ => False
  | .dropAllConnections _ => False
  | .dropIdleConnections _ _ _ => False

variable {m s s' : ConnectionManager (Managed Conn)}

structure Spares (m s : ConnectionManager (Managed Conn)) : Prop extends Listed s where
  observed : s.hasCallback = true
  handshakes : ∀ h, .handshake h ∈ s.conns ↔ .handshake h ∈ m.conns
  spared : ∀ e ∈ s.trace, Spared e
  emptied : .onEmpty ∈ s.trace → s.conns = []
  told : s.conns = [] → .onEmpty ∈ s.trace ∨ m.conns = []

theorem Spares.refl (listed : Listed m) (observed : m.hasCallback = true) : Spares m { m with trace := [] } :=
  ⟨⟨listed.nodup, listed.managed⟩, observed, fun _ => .rfl, by simp, by simp, .inr⟩

theorem Spares.record (spares : Spares m s) {e : Event (Managed Conn)} (spared : Spared e) (other : e ≠ .onEmpty) :
    Spares m (s.record e) := by
  refine ⟨⟨spares.nodup, spares.managed⟩, spares.observed, spares.handshakes, ?_, ?_, ?_⟩
  · intro x member
    obtain member | rfl := List.mem_append.mp member |>.imp id List.mem_singleton.mp
    · exact spares.spared x member
    · exact spared
  · intro member
    obtain member | equal := List.mem_append.mp member |>.imp id List.mem_singleton.mp
    · exact spares.emptied member
    · exact absurd equal.symm other
  · exact fun empty => (spares.told empty).imp (List.mem_append_left _) id

theorem removed_spared {c : Managed Conn} (connection : IsConnection c) {calls : List (Event (Managed Conn))}
    (observer : ∀ e ∈ calls, e = .onConnectionRemoved ∨ e = .onEmpty) : ∀ e ∈ .removed c :: calls, Spared e := by
  intro e member
  obtain rfl | call := List.mem_cons.mp member
  · cases c with
    | connection c => trivial
    | handshake h => exact connection.elim
  · obtain rfl | rfl := observer e call <;> trivial

variable [DecidableEq Conn]

theorem Spares.removeConnection (spares : Spares m s) {c : Managed Conn} (connection : IsConnection c) :
    Spares m (s.removeConnection c) := by
  cases managed : s.isManaged c with
  | false => rwa [removeConnection_of_not_managed managed]
  | true =>
      have member := (spares.managed c).mp managed
      have conns := removeConnection_conns spares.toListed c
      have trace := removeConnection_observed spares.observed managed
      refine ⟨spares.toListed.removeConnection c,
        (removeConnection_effects c s).sameDrain.hasCallback.trans spares.observed, ?_, ?_, ?_, ?_⟩
      · intro h
        have other : .handshake h ≠ c := by
          rintro rfl
          exact connection
        rw [conns, List.mem_erase_of_ne other, spares.handshakes]
      · intro e inside
        obtain ⟨calls, equal, observer⟩ := removeConnection_eq managed
        rw [equal] at inside
        obtain old | new := List.mem_append.mp inside
        · exact spares.spared e old
        · exact removed_spared connection observer e new
      · intro inside
        rw [conns]
        rw [trace, List.mem_append] at inside
        obtain old | new := inside
        · rw [spares.emptied old] at member
          cases member
        · split at new
          · rename_i last
            exact List.eq_nil_of_length_eq_zero last
          · simp at new
      · intro empty
        rw [conns] at empty
        refine .inl ?_
        simp [trace, empty]

theorem spares_stable (m : ConnectionManager (Managed Conn)) : Stable IsConnection (Spares m) where
  same spares alike := by
    refine ⟨⟨?_, ?_⟩, ?_, ?_, ?_, ?_, ?_⟩
    · exact alike.conns ▸ spares.nodup
    · exact alike.conns ▸ alike.managed ▸ spares.managed
    · exact alike.hasCallback ▸ spares.observed
    · exact alike.conns ▸ spares.handshakes
    · exact alike.trace ▸ spares.spared
    · exact alike.conns ▸ alike.trace ▸ spares.emptied
    · exact alike.conns ▸ alike.trace ▸ spares.told
  notify _ spares := spares.record trivial nofun
  close _ spares := spares.record trivial nofun
  remove _ connection spares := spares.removeConnection connection

theorem Spares.inserted (spares : Spares m s) (wf : WellFormed s) (fresh : s.trace = []) (c : Conn) :
    Spares m (inserted (.connection c) s) := by
  have listed := (inserted_wellFormed wf (.connection c)).toListed
  cases managed : s.isManaged (.connection c) with
  | true => simpa [Acceptor.inserted, managed] using spares
  | false =>
      obtain ⟨calls, equal, observer⟩ := insertConnection_eq (.connection c) s
      have new : Acceptor.inserted (.connection c) s = s.insertConnection (.connection c) := by
        simp [Acceptor.inserted, managed]
      rw [new, equal, fresh] at listed ⊢
      refine ⟨listed, spares.observed, ?_, ?_, ?_, ?_⟩
      · intro h
        simpa using spares.handshakes h
      · intro e inside
        simp only [List.nil_append, List.mem_cons] at inside
        obtain rfl | call := inside
        · trivial
        · rw [observer e call]
          trivial
      · intro inside
        simp only [List.nil_append, List.mem_cons, reduceCtorEq, false_or] at inside
        cases observer _ inside
      · exact nofun

theorem step_spares {op : Op (Managed Conn)} (wf : WellFormed m) (observed : m.hasCallback = true)
    (routine : Routine op) (taken : step { m with trace := [] } op = .ok s') : Spares m s' := by
  have start := Spares.refl wf.toListed observed
  have stable := spares_stable m
  have quiet : WellFormed { m with trace := [] } := wf.of_eq rfl rfl rfl rfl
  have listed := (step_wellFormed quiet taken).toListed
  cases stepCase taken with
  | @turn _ reaction _ _ enters done =>
      have polite : Polite reaction := by
        cases enters <;> exact routine
      exact stable.turn polite enters start done
  | initiateIgnored busy => exact start
  | drainIgnored busy => exact start
  | timeoutIgnored early => exact stable.same start ⟨rfl, rfl, rfl, rfl⟩
  | @add c reaction =>
      obtain ⟨connection, polite⟩ := routine
      cases c with
      | connection c => exact stable.addConnection (polite _) (start.inserted quiet rfl c)
      | handshake h => exact connection.elim
  | remove => exact start.removeConnection routine
  | @activate c member =>
      refine ⟨listed, observed, ?_, ?_, ?_, ?_⟩
      · exact fun h => mem_push_front quiet member _
      · simp [ConnectionManager.record, Spared]
      · simp [ConnectionManager.record]
      · simp [ConnectionManager.record]
  | @deactivate c member =>
      refine ⟨listed, observed, ?_, ?_, ?_, ?_⟩
      · exact fun h => mem_push_back quiet member _
      · simp [ConnectionManager.record, Spared]
      · simp [ConnectionManager.record]
      · simp [ConnectionManager.record]
  | pendingAdd pending linked =>
      exact stable.fireCloseWhenIdle _ _ (routine _) (stable.same start ⟨rfl, rfl, rfl, rfl⟩)
  | pendingAddUnlinked pending unlinked => exact stable.same start ⟨rfl, rfl, rfl, rfl⟩
  | dropConnections => exact routine.elim
  | dropAll => exact routine.elim
  | dropIdle => exact routine.elim

/-! ## Drops -/

def Told (past : List (Event (Managed Conn))) : Event (Managed Conn) → Prop
  | .dropConnection (.handshake h) => .removed (.handshake h) ∈ past
  | _ => True

structure Sweeps (m s : ConnectionManager (Managed Conn)) : Prop extends Listed s where
  observed : s.hasCallback = true
  count : ∀ h, s.conns.count (.handshake h) + s.trace.count (.dropConnection (.handshake h)) =
    m.conns.count (.handshake h)
  order : Lawful Told [] s.trace

theorem Sweeps.refl (listed : Listed m) (observed : m.hasCallback = true) : Sweeps m { m with trace := [] } :=
  ⟨⟨listed.nodup, listed.managed⟩, observed, by simp, trivial⟩

theorem Sweeps.extend (sweeps : Sweeps m s) (listed : Listed s') (observed : s'.hasCallback = s.hasCallback)
    (conns : ∀ h, s'.conns.count (.handshake h) = s.conns.count (.handshake h))
    (events : List (Event (Managed Conn))) (trace : s'.trace = s.trace ++ events)
    (spared : ∀ e ∈ events, Spared e) : Sweeps m s' := by
  refine ⟨listed, observed.trans sweeps.observed, ?_, ?_⟩
  · intro h
    have none : events.count (.dropConnection (.handshake h)) = 0 :=
      List.count_eq_zero.mpr fun member => spared _ member
    rw [conns, trace, List.count_append, none]
    exact sweeps.count h
  · rw [trace, lawful_append]
    refine ⟨sweeps.order, lawful_of_forall fun past e member => ?_⟩
    have quiet := spared e member
    unfold Told
    split
    · exact quiet.elim
    · trivial

theorem sweeps_stable (m : ConnectionManager (Managed Conn)) : Stable IsConnection (Sweeps m) where
  same sweeps alike := by
    refine ⟨⟨?_, ?_⟩, ?_, ?_, ?_⟩
    · exact alike.conns ▸ sweeps.nodup
    · exact alike.conns ▸ alike.managed ▸ sweeps.managed
    · exact alike.hasCallback ▸ sweeps.observed
    · exact alike.conns ▸ alike.trace ▸ sweeps.count
    · exact alike.trace ▸ sweeps.order
  notify c sweeps := by
    refine sweeps.extend ⟨sweeps.nodup, sweeps.managed⟩ rfl (fun _ => rfl) [.notifyPendingShutdown c] rfl ?_
    simp [Spared]
  close c sweeps := by
    refine sweeps.extend ⟨sweeps.nodup, sweeps.managed⟩ rfl (fun _ => rfl) [.closeWhenIdle c] rfl ?_
    simp [Spared]
  remove c connection sweeps := by
    have listed := sweeps.toListed.removeConnection c
    rename_i s
    cases managed : s.isManaged c with
    | false => rwa [removeConnection_of_not_managed managed]
    | true =>
        obtain ⟨calls, equal, observer⟩ := removeConnection_eq managed
        rw [equal] at listed ⊢
        refine sweeps.extend listed rfl (fun h => ?_) _ rfl (removed_spared connection observer)
        refine List.count_erase_of_ne ?_
        rintro rfl
        exact connection

theorem Sweeps.drop {c : Managed Conn} {calls : List (Event (Managed Conn))} (sweeps : Sweeps m s) (member : c ∈ s.conns)
    (listed : Listed s') (observed : s'.hasCallback = s.hasCallback) (conns : s'.conns = s.conns.erase c)
    (trace : s'.trace = s.trace ++ .removed c :: calls)
    (observer : ∀ e ∈ calls, e = .onConnectionRemoved ∨ e = .onEmpty) : Sweeps m (s'.record (.dropConnection c)) := by
  have recorded : Listed (s'.record (.dropConnection c)) := ⟨listed.nodup, listed.managed⟩
  have trace' : (s'.record (.dropConnection c)).trace = s.trace ++ (.removed c :: calls ++ [.dropConnection c]) := by
    simp [ConnectionManager.record, trace]
  cases c with
  | connection c =>
      have connection : IsConnection (.connection c : Managed Conn) := trivial
      refine sweeps.extend recorded observed (fun h => ?_) _ trace' ?_
      · have other : Managed.handshake h ≠ .connection c := by simp
        exact conns ▸ List.count_erase_of_ne other
      · intro e inside
        obtain before | last := List.mem_append.mp inside
        · exact removed_spared connection observer e before
        · rw [List.mem_singleton.mp last]
          trivial
  | handshake dropped =>
      have quiet : ∀ e ∈ calls, Spared e := fun e call => by
        obtain rfl | rfl := observer e call <;> trivial
      refine ⟨recorded, observed.trans sweeps.observed, fun h => ?_, ?_⟩
      · have before := sweeps.count h
        have none : calls.count (.dropConnection (.handshake h)) = 0 :=
          List.count_eq_zero.mpr fun inside => quiet _ inside
        rw [trace', show (s'.record (.dropConnection (.handshake dropped))).conns = _ from conns]
        by_cases same : h = dropped
        · subst same
          have listed := List.count_pos_iff.mpr member
          simp [none]
          omega
        · have other : Managed.handshake h ≠ (Managed.handshake dropped : Managed Conn) := by simpa using same
          rw [List.count_erase_of_ne other]
          simpa [none, Ne.symm same] using before
      · rw [trace', lawful_append]
        refine ⟨sweeps.order, trivial, lawful_append.mpr ⟨lawful_of_forall fun past e call => ?_, ?_, trivial⟩⟩
        · obtain rfl | rfl := observer e call <;> trivial
        · simp [Told]

section Loops
variable {reaction : Reaction (Managed Conn)} (polite : Polite reaction)
include polite

theorem dropLoop_sweeps (n : Nat) (sweeps : Sweeps m s) : Sweeps m (dropLoop reaction n s) := by
  induction n generalizing s with
  | zero => exact sweeps
  | succ n ih =>
      rw [dropLoop]
      split
      · exact sweeps
      · rename_i c conns front
        have member : c ∈ s.conns := front ▸ List.mem_cons_self
        obtain ⟨calls, equal, observer⟩ := removeConnection_eq ((sweeps.managed c).mpr member)
        have listed := sweeps.toListed.removeConnection c
        have dropped := sweeps.drop member listed (by rw [equal]) (by rw [equal]) (by rw [equal]) observer
        exact ih ((sweeps_stable m).removeConnections (polite c) dropped)

theorem dropConnections_sweeps (pct : Nat → Nat) (listed : Listed m) (observed : m.hasCallback = true) :
    Sweeps m (ConnectionManager.dropConnections reaction pct { m with trace := [] }) :=
  dropLoop_sweeps polite _ ((sweeps_stable m).same (Sweeps.refl listed observed) ⟨rfl, rfl, rfl, rfl⟩)

theorem dropAllLoop_sweeps (n : Nat) (sweeps : Sweeps m s) : Sweeps m (dropAllLoop reaction n s) := by
  induction n generalizing s with
  | zero => exact sweeps
  | succ n ih =>
      rw [dropAllLoop]
      split
      · exact sweeps
      · rename_i c conns front
        have member : c ∈ s.conns := front ▸ List.mem_cons_self
        have popped := popped_listed sweeps.toListed front
        have dropped := sweeps.drop member popped rfl (by simp [front, ConnectionManager.record, setManaged]) rfl (by simp)
        exact ih ((sweeps_stable m).removeConnections (polite c) dropped)

theorem dropAllConnections_sweeps (listed : Listed m) (observed : m.hasCallback = true) :
    Sweeps m (ConnectionManager.dropAllConnections reaction { m with trace := [] }) ∧
      (ConnectionManager.dropAllConnections reaction { m with trace := [] }).conns = [] := by
  have stopped : Sweeps m (stopDrainingForShutdown { m with trace := [] }) :=
    (sweeps_stable m).same (Sweeps.refl listed observed) ⟨rfl, rfl, rfl, rfl⟩
  have loop := dropAllLoop_sweeps polite m.conns.length stopped
  obtain ⟨-, empty, -⟩ := dropAllLoop_spec reaction stopped.toListed (Nat.le_refl m.conns.length)
  unfold ConnectionManager.dropAllConnections
  simp only
  rw [if_pos (by exact loop.observed)]
  refine ⟨?_, empty⟩
  exact loop.extend ⟨loop.nodup, loop.managed⟩ rfl (fun _ => rfl) [.onEmpty] rfl (by simp [Spared])

end Loops

end Wangle.Proof.Acceptor
