import Wangle.Acceptor.ConnectionManager
import Mathlib.Logic.Relation

/-!
# What the callbacks of a connection can change

The loops of the manager are sequences of small `Effect`s, and what holds through every effect holds
through every loop.
-/

namespace Wangle.Proof.Acceptor
open Wangle.Acceptor Wangle.Intrusive ConnectionManager

variable {Conn : Type} [DecidableEq Conn]

structure Listed (s : ConnectionManager Conn) : Prop where
  nodup : s.conns.Nodup
  managed : ∀ c, s.isManaged c = true ↔ c ∈ s.conns

structure WellFormed (s : ConnectionManager Conn) : Prop extends Listed s where
  drain : ∀ c, s.drainIterator = some c → c ∈ s.conns
  idle : ∀ c, s.idleIterator = some c → c ∈ s.conns

inductive Effect (s : ConnectionManager Conn) : ConnectionManager Conn → Prop
  | remove (c : Conn) (managed : s.isManaged c = true) : Effect s (s.removeConnection c)
  | notify (c : Conn) (fresh : s.drainState c = .none) :
      Effect s (record (.notifyPendingShutdown c) (setDrainState c .sentNotifyPendingShutdown s))
  | close (c : Conn)
      (due : s.notifyPendingShutdown = false ∨ s.drainState c = .sentNotifyPendingShutdown) :
      Effect s (record (.closeWhenIdle c) (setDrainState c .sentCloseWhenIdle s))
  | drop (c : Conn) : Effect s (record (.dropConnection c) s)

abbrev Effects : ConnectionManager Conn → ConnectionManager Conn → Prop := Relation.ReflTransGen Effect

/-! ## One removal -/

omit [DecidableEq Conn] in
theorem reportRemoval_eq (s : ConnectionManager Conn) :
    ∃ calls, s.reportRemoval = { s with trace := s.trace ++ calls } ∧
      ∀ e ∈ calls, e = .onConnectionRemoved ∨ e = .onEmpty := by
  by_cases observed : s.hasCallback
  · by_cases last : s.conns.length = 0
    · exact ⟨[.onConnectionRemoved, .onEmpty], by simp [reportRemoval, record, observed, last], by simp⟩
    · exact ⟨[.onConnectionRemoved], by simp only [reportRemoval, record, observed, if_true, last, if_false], by simp⟩
  · exact ⟨[], by rw [reportRemoval, if_neg observed, List.append_nil], by simp⟩

theorem removeConnection_eq {s : ConnectionManager Conn} {c : Conn} (managed : s.isManaged c = true) :
    ∃ calls, s.removeConnection c =
        { s with
          conns := s.conns.erase c
          drainIterator := if s.drainIterator = some c then next c s.conns else s.drainIterator
          idleIterator := if s.idleIterator = some c then next c s.conns else s.idleIterator
          isManaged := Function.update s.isManaged c false
          trace := s.trace ++ .removed c :: calls } ∧
      ∀ e ∈ calls, e = .onConnectionRemoved ∨ e = .onEmpty := by
  rw [removeConnection, if_pos managed]
  obtain ⟨calls, reported, observer⟩ := reportRemoval_eq (record (.removed c) (setManaged c false
      { s with
        drainIterator := if s.drainIterator = some c then next c s.conns else s.drainIterator
        idleIterator := if s.idleIterator = some c then next c s.conns else s.idleIterator
        conns := s.conns.erase c }))
  exact ⟨calls, by rw [reported]; simp [record, setManaged], observer⟩

theorem removeConnection_of_not_managed {s : ConnectionManager Conn} {c : Conn}
    (unknown : s.isManaged c = false) : s.removeConnection c = s := by
  simp [removeConnection, unknown]

theorem next_mem {c x : Conn} {l : List Conn} (nodup : l.Nodup) (moved : next c l = some x) : x ∈ l.erase c := by
  by_cases member : c ∈ l
  · have stands : ∀ y, some c = some y → y ∈ l := by simpa using member
    obtain ⟨before, divides⟩ := exists_divides stands
    have erased := divides.erase nodup c
    rw [if_pos rfl] at erased
    exact erased.mem x moved
  · have nothing : onward (some c) l = [] := by
      rw [onward, List.dropWhile_eq_nil_iff]
      intro x inside
      simp only [ne_eq, decide_not, Bool.not_eq_eq_eq_not, Bool.not_true, decide_eq_false_iff_not]
      exact fun equal => member (equal ▸ inside)
    simp [next, nothing] at moved

theorem erase_stands {it : Option Conn} {l : List Conn} (nodup : l.Nodup) (stands : ∀ c, it = some c → c ∈ l)
    (c x : Conn) (moved : (if it = some c then next c l else it) = some x) : x ∈ l.erase c := by
  obtain ⟨before, divides⟩ := exists_divides stands
  exact (divides.erase nodup c).mem x moved

theorem Listed.removeConnection {s : ConnectionManager Conn} (listed : Listed s) (c : Conn) :
    Listed (s.removeConnection c) := by
  cases managed : s.isManaged c with
  | false => rwa [removeConnection_of_not_managed managed]
  | true =>
      obtain ⟨calls, equal, -⟩ := removeConnection_eq managed
      rw [equal]
      refine ⟨listed.nodup.erase c, fun x => ?_⟩
      rw [listed.nodup.mem_erase_iff]
      by_cases same : x = c
      · simp [same]
      · simp [same, listed.managed]

theorem WellFormed.removeConnection {s : ConnectionManager Conn} (wf : WellFormed s) (c : Conn) :
    WellFormed (s.removeConnection c) := by
  have listed := wf.toListed.removeConnection c
  cases managed : s.isManaged c with
  | false => rwa [removeConnection_of_not_managed managed]
  | true =>
      obtain ⟨calls, equal, -⟩ := removeConnection_eq managed
      rw [equal] at listed ⊢
      exact ⟨listed, erase_stands wf.nodup wf.drain c, erase_stands wf.nodup wf.idle c⟩

theorem removeConnection_conns {s : ConnectionManager Conn} (listed : Listed s) (c : Conn) :
    (s.removeConnection c).conns = s.conns.erase c := by
  cases managed : s.isManaged c with
  | false =>
      rw [removeConnection_of_not_managed managed, List.erase_of_not_mem]
      intro member
      rw [(listed.managed c).mpr member] at managed
      cases managed
  | true =>
      obtain ⟨calls, equal, -⟩ := removeConnection_eq managed
      rw [equal]

/-! ## Through effects -/

structure SameDrain (s s' : ConnectionManager Conn) : Prop where
  drainHelper : s'.drainHelper = s.drainHelper
  notifyPendingShutdown : s'.notifyPendingShutdown = s.notifyPendingShutdown
  pendingAdds : s'.pendingAdds = s.pendingAdds
  threshold : s'.idleConnEarlyDropThreshold = s.idleConnEarlyDropThreshold
  hasCallback : s'.hasCallback = s.hasCallback

omit [DecidableEq Conn] in
theorem SameDrain.refl (s : ConnectionManager Conn) : SameDrain s s := ⟨rfl, rfl, rfl, rfl, rfl⟩

omit [DecidableEq Conn] in
theorem SameDrain.trans {s m s' : ConnectionManager Conn} (first : SameDrain s m) (second : SameDrain m s') :
    SameDrain s s' :=
  ⟨second.1.trans first.1, second.2.trans first.2, second.3.trans first.3, second.4.trans first.4,
    second.5.trans first.5⟩

theorem Effect.sameDrain {s s' : ConnectionManager Conn} (effect : Effect s s') : SameDrain s s' := by
  cases effect with
  | remove c managed =>
      obtain ⟨calls, equal, -⟩ := removeConnection_eq managed
      rw [equal]
      exact ⟨rfl, rfl, rfl, rfl, rfl⟩
  | notify c fresh => exact ⟨rfl, rfl, rfl, rfl, rfl⟩
  | close c due => exact ⟨rfl, rfl, rfl, rfl, rfl⟩
  | drop c => exact ⟨rfl, rfl, rfl, rfl, rfl⟩

theorem Effect.listed {s s' : ConnectionManager Conn} (effect : Effect s s') (listed : Listed s) : Listed s' := by
  cases effect with
  | remove c managed => exact listed.removeConnection c
  | notify c fresh => exact ⟨listed.nodup, listed.managed⟩
  | close c due => exact ⟨listed.nodup, listed.managed⟩
  | drop c => exact ⟨listed.nodup, listed.managed⟩

theorem Effect.wellFormed {s s' : ConnectionManager Conn} (effect : Effect s s') (wf : WellFormed s) :
    WellFormed s' := by
  cases effect with
  | remove c managed => exact wf.removeConnection c
  | notify c fresh => exact ⟨⟨wf.nodup, wf.managed⟩, wf.drain, wf.idle⟩
  | close c due => exact ⟨⟨wf.nodup, wf.managed⟩, wf.drain, wf.idle⟩
  | drop c => exact ⟨⟨wf.nodup, wf.managed⟩, wf.drain, wf.idle⟩

theorem Effect.conns_sublist {s s' : ConnectionManager Conn} (effect : Effect s s') :
    s'.conns.Sublist s.conns := by
  cases effect with
  | remove c managed =>
      obtain ⟨calls, equal, -⟩ := removeConnection_eq managed
      rw [equal]
      exact List.erase_sublist
  | notify c fresh => exact List.Sublist.refl _
  | close c due => exact List.Sublist.refl _
  | drop c => exact List.Sublist.refl _

theorem Effects.sameDrain {s s' : ConnectionManager Conn} (effects : Effects s s') : SameDrain s s' := by
  induction effects with
  | refl => exact .refl s
  | tail _ effect ih => exact ih.trans effect.sameDrain

theorem Effects.listed {s s' : ConnectionManager Conn} (effects : Effects s s') (listed : Listed s) :
    Listed s' := by
  induction effects with
  | refl => exact listed
  | tail _ effect ih => exact effect.listed ih

theorem Effects.wellFormed {s s' : ConnectionManager Conn} (effects : Effects s s') (wf : WellFormed s) :
    WellFormed s' := by
  induction effects with
  | refl => exact wf
  | tail _ effect ih => exact effect.wellFormed ih

theorem Effects.conns_sublist {s s' : ConnectionManager Conn} (effects : Effects s s') :
    s'.conns.Sublist s.conns := by
  induction effects with
  | refl => exact List.Sublist.refl _
  | tail _ effect ih => exact effect.conns_sublist.trans ih

/-! ## The functions as effects -/

theorem removeConnections_effects (cs : List Conn) (s : ConnectionManager Conn) :
    Effects s (s.removeConnections cs) := by
  induction cs generalizing s with
  | nil => exact .refl
  | cons c cs ih =>
      cases managed : s.isManaged c with
      | false =>
          have skipped := ih s
          rwa [removeConnections, List.foldl_cons, removeConnection_of_not_managed managed]
      | true => exact .head (.remove c managed) (ih _)

theorem fireNotifyPendingShutdown_effects (reaction : Reaction Conn) (c : Conn) (s : ConnectionManager Conn) :
    Effects s (s.fireNotifyPendingShutdown reaction c) := by
  unfold fireNotifyPendingShutdown
  split
  · exact .head (.notify c (by assumption)) (removeConnections_effects _ _)
  · exact .refl

theorem fireCloseWhenIdle_effects (reaction : Reaction Conn) (c : Conn) (s : ConnectionManager Conn) :
    Effects s (s.fireCloseWhenIdle reaction (!s.notifyPendingShutdown) c) := by
  unfold fireCloseWhenIdle
  split
  · rename_i due
    exact .head (.close c (by simpa using due)) (removeConnections_effects _ _)
  · exact .refl

theorem dropConnection_effects (reaction : Reaction Conn) (c : Conn) (s : ConnectionManager Conn) :
    Effects s (s.dropConnection reaction c) :=
  .head (.drop c) (removeConnections_effects _ _)

theorem removeConnection_effects (c : Conn) (s : ConnectionManager Conn) : Effects s (s.removeConnection c) :=
  removeConnections_effects [c] s

theorem drainOne_effects (reaction : Reaction Conn) (c : Conn) (s : ConnectionManager Conn) :
    Effects s (DrainHelper.drainOne reaction c s) := by
  unfold DrainHelper.drainOne
  split
  · exact fireNotifyPendingShutdown_effects reaction c s
  · exact fireCloseWhenIdle_effects reaction c s

theorem dropLoop_effects (reaction : Reaction Conn) (n : Nat) (s : ConnectionManager Conn) :
    Effects s (dropLoop reaction n s) := by
  induction n generalizing s with
  | zero => exact .refl
  | succ n ih =>
      rw [dropLoop]
      split
      · exact .refl
      · exact (removeConnection_effects _ s).trans ((dropConnection_effects reaction _ _).trans (ih _))

theorem dropConnections_effects (reaction : Reaction Conn) (pct : Nat → Nat) (s : ConnectionManager Conn) :
    Effects s.stopDrainingForShutdown (s.dropConnections reaction pct) :=
  dropLoop_effects reaction _ _

theorem dropIdleConnections_kept {P : ConnectionManager Conn → Prop} {reaction : Reaction Conn}
    (turn : ∀ s c, s.idleIterator = some c → P s →
      P (dropConnection reaction c { s with idleIterator := next c s.conns }))
    (idleTime : Conn → Int) (num : Nat) {s : ConnectionManager Conn} (start : P s) :
    P (s.dropIdleConnections reaction idleTime num).2 := by
  have loop : ∀ num (s : ConnectionManager Conn), P s → P (dropIdleLoop reaction idleTime num s).2 := by
    intro num
    induction num with
    | zero => exact fun s start => start
    | succ n ih =>
        intro s start
        rw [dropIdleLoop]
        split
        · exact start
        · rename_i c stands
          split
          · exact start
          · exact ih _ (turn s c stands start)
  unfold dropIdleConnections
  split
  · exact start
  · exact loop num s start

theorem dropIdleConnections_sameDrain (reaction : Reaction Conn) (idleTime : Conn → Int) (num : Nat)
    (s : ConnectionManager Conn) : SameDrain s (s.dropIdleConnections reaction idleTime num).2 := by
  refine dropIdleConnections_kept (P := SameDrain s) ?_ idleTime num (.refl s)
  intro m c stands same
  have advanced : SameDrain s { m with idleIterator := next c m.conns } := ⟨same.1, same.2, same.3, same.4, same.5⟩
  exact advanced.trans (dropConnection_effects reaction c _).sameDrain

theorem dropIdleConnections_wellFormed {s : ConnectionManager Conn} (wf : WellFormed s)
    (reaction : Reaction Conn) (idleTime : Conn → Int) (num : Nat) :
    WellFormed (s.dropIdleConnections reaction idleTime num).2 := by
  refine dropIdleConnections_kept (P := WellFormed) ?_ idleTime num wf
  intro m c stands wf
  refine (dropConnection_effects reaction c _).wellFormed ⟨⟨wf.nodup, wf.managed⟩, wf.drain, fun x moved => ?_⟩
  exact List.mem_of_mem_erase (next_mem wf.nodup moved)

end Wangle.Proof.Acceptor
