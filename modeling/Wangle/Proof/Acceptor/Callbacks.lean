import Wangle.Proof.Acceptor.Steps

/-!
# What holds through the callbacks of the connections

A property that survives one notification and one removal survives every operation that is made of them.
-/

namespace Wangle.Proof.Acceptor
open Wangle.Acceptor Wangle.Intrusive ConnectionManager

variable {Conn : Type} [DecidableEq Conn]

theorem removeConnection_observed {s : ConnectionManager Conn} {c : Conn} (observed : s.hasCallback = true)
    (managed : s.isManaged c = true) :
    (s.removeConnection c).trace = s.trace ++ .removed c ::
        (if (s.conns.erase c).length = 0 then [.onConnectionRemoved, .onEmpty] else [.onConnectionRemoved]) := by
  simp only [removeConnection, managed, if_true, reportRemoval, record, setManaged, observed]
  split
  · simp
  · simp

structure Alike (s s' : ConnectionManager Conn) : Prop where
  conns : s'.conns = s.conns
  managed : s'.isManaged = s.isManaged
  hasCallback : s'.hasCallback = s.hasCallback
  trace : s'.trace = s.trace

omit [DecidableEq Conn] in
theorem finishDrain_alike (it : Option Conn) (s : ConnectionManager Conn) : Alike s (DrainHelper.finishDrain it s) := by
  simp only [DrainHelper.finishDrain]
  split
  · exact ⟨rfl, rfl, rfl, rfl⟩
  · split
    · split
      · exact ⟨rfl, rfl, rfl, rfl⟩
      · exact ⟨rfl, rfl, rfl, rfl⟩
    · exact ⟨rfl, rfl, rfl, rfl⟩

omit [DecidableEq Conn] in
theorem Enters.alike {s entry : ConnectionManager Conn} {op : Op Conn} {reaction : Reaction Conn}
    (enters : Enters s op reaction entry) : Alike s entry := by
  cases enters with
  | initiate idle =>
      unfold DrainHelper.beginDrain
      split
      · exact ⟨rfl, rfl, rfl, rfl⟩
      · exact ⟨rfl, rfl, rfl, rfl⟩
  | drain idle =>
      unfold DrainHelper.beginDrain
      split
      · exact ⟨rfl, rfl, rfl, rfl⟩
      · exact ⟨rfl, rfl, rfl, rfl⟩
  | loop scheduled => exact ⟨rfl, rfl, rfl, rfl⟩
  | timeout scheduled complete => exact ⟨rfl, rfl, rfl, rfl⟩

structure Stable (allowed : Conn → Prop) (P : ConnectionManager Conn → Prop) : Prop where
  same : ∀ {s s' : ConnectionManager Conn}, P s → Alike s s' → P s'
  notify : ∀ {s : ConnectionManager Conn} (c : Conn), P s → P (s.record (.notifyPendingShutdown c))
  close : ∀ {s : ConnectionManager Conn} (c : Conn), P s → P (s.record (.closeWhenIdle c))
  remove : ∀ {s : ConnectionManager Conn} (c : Conn), allowed c → P s → P (s.removeConnection c)

namespace Stable
variable {allowed : Conn → Prop} {P : ConnectionManager Conn → Prop} {reaction : Reaction Conn}
  {s s' : ConnectionManager Conn}

theorem removeConnections (stable : Stable allowed P) {cs : List Conn} (removable : ∀ c ∈ cs, allowed c)
    (holds : P s) : P (s.removeConnections cs) := by
  induction cs generalizing s with
  | nil => exact holds
  | cons c cs ih =>
      have first := stable.remove c (removable c List.mem_cons_self) holds
      exact ih (fun x member => removable x (List.mem_cons_of_mem _ member)) first

theorem fireNotifyPendingShutdown (stable : Stable allowed P) (c : Conn) (removable : ∀ x ∈ reaction c, allowed x)
    (holds : P s) : P (s.fireNotifyPendingShutdown reaction c) := by
  unfold ConnectionManager.fireNotifyPendingShutdown
  split
  · exact stable.removeConnections removable (stable.notify c (stable.same holds ⟨rfl, rfl, rfl, rfl⟩))
  · exact holds

theorem fireCloseWhenIdle (stable : Stable allowed P) (forceToClose : Bool) (c : Conn)
    (removable : ∀ x ∈ reaction c, allowed x) (holds : P s) : P (s.fireCloseWhenIdle reaction forceToClose c) := by
  unfold ConnectionManager.fireCloseWhenIdle
  split
  · exact stable.removeConnections removable (stable.close c (stable.same holds ⟨rfl, rfl, rfl, rfl⟩))
  · exact holds

variable (removable : ∀ c, ∀ x ∈ reaction c, allowed x)
include removable

theorem drainOne (stable : Stable allowed P) (c : Conn) (holds : P s) : P (DrainHelper.drainOne reaction c s) := by
  unfold DrainHelper.drainOne
  split
  · exact stable.fireNotifyPendingShutdown c (removable c) holds
  · exact stable.fireCloseWhenIdle _ c (removable c) holds

theorem drainLoop (stable : Stable allowed P) {n : Nat} {it it' : Option Conn} (holds : P s)
    (done : DrainHelper.drainLoop reaction n it s = .ok (it', s')) : P s' := by
  induction n generalizing it s with
  | zero =>
      cases done
      exact holds
  | succ n ih =>
      cases it with
      | none =>
          cases done
          exact holds
      | some c =>
          rw [DrainHelper.drainLoop] at done
          split at done
          · exact ih (stable.drainOne removable c holds) done
          · cases done

theorem drainConnections (stable : Stable allowed P) (holds : P s)
    (done : DrainHelper.drainConnections reaction s = .ok s') : P s' := by
  unfold DrainHelper.drainConnections at done
  split at done
  · split at done
    · cases done
    · rename_i loop
      cases done
      exact stable.same (stable.drainLoop removable holds loop) (finishDrain_alike _ _)
  · cases done

theorem turn (stable : Stable allowed P) {op : Op Conn} {entry : ConnectionManager Conn}
    (enters : Enters s op reaction entry) (holds : P s) (done : DrainHelper.drainConnections reaction entry = .ok s') :
    P s' :=
  stable.drainConnections removable (stable.same holds enters.alike) done

omit removable in
theorem addConnection (stable : Stable allowed P) {c : Conn} (removable : ∀ x ∈ reaction c, allowed x)
    (holds : P (inserted c s)) : P (s.addConnection reaction c) := by
  have greeting : P (greeted reaction c s) := by
    unfold greeted
    split
    · exact stable.fireNotifyPendingShutdown c removable holds
    · exact holds
  rw [addConnection_eq]
  split
  · exact stable.same greeting ⟨rfl, rfl, rfl, rfl⟩
  · exact greeting

variable (dropped : ∀ {s : ConnectionManager Conn} (c : Conn), P s → P (s.record (.dropConnection c)))
include dropped

theorem dropConnection (stable : Stable allowed P) (c : Conn) (holds : P s) : P (s.dropConnection reaction c) :=
  stable.removeConnections (removable c) (dropped c holds)

omit removable in
theorem dropConnections (stable : Stable (fun _ => True) P) (pct : Nat → Nat) (holds : P s) :
    P (s.dropConnections reaction pct) := by
  have loop : ∀ n (s : ConnectionManager Conn), P s → P (dropLoop reaction n s) := by
    intro n
    induction n with
    | zero => exact fun s holds => holds
    | succ n ih =>
        intro s holds
        rw [dropLoop]
        split
        · exact holds
        · rename_i c conns front
          have removed := stable.remove c trivial holds
          exact ih _ (stable.dropConnection (fun _ _ _ => trivial) dropped c removed)
  exact loop _ _ (stable.same holds ⟨rfl, rfl, rfl, rfl⟩)

theorem dropIdleConnections (stable : Stable allowed P) (idleTime : Conn → Int) (num : Nat) (holds : P s) :
    P (s.dropIdleConnections reaction idleTime num).2 := by
  refine dropIdleConnections_kept (fun s c stands holds => ?_) idleTime num holds
  exact stable.dropConnection removable dropped c (stable.same holds ⟨rfl, rfl, rfl, rfl⟩)

end Stable

end Wangle.Proof.Acceptor
