import Wangle.Bootstrap.ServerWorkerPool
import Mathlib.Data.List.Pairwise
import Mathlib.Data.List.Nodup

/-!
# The map of workers
-/

namespace Wangle.Proof.Bootstrap
open Wangle.Bootstrap

abbrev Ordered (workers : List Worker) : Prop := workers.Pairwise (·.thread < ·.thread)

theorem Ordered.nodup {workers : List Worker} (ordered : Ordered workers) : workers.Nodup := by
  refine List.Pairwise.imp ?_ ordered
  rintro v w lt rfl
  exact Nat.lt_irrefl _ lt

theorem findWorker_none {thread : Nat} {workers : List Worker} (absent : findWorker thread workers = none) :
    ∀ v ∈ workers, v.thread ≠ thread := by
  intro v member
  simpa using List.find?_eq_none.mp absent v member

theorem findWorker_some {thread : Nat} {workers : List Worker} {w : Worker}
    (found : findWorker thread workers = some w) : w ∈ workers ∧ w.thread = thread :=
  ⟨List.mem_of_find?_eq_some found, by simpa using List.find?_some found⟩

section
variable {w : Worker} {workers : List Worker}

theorem mem_insertWorker (absent : ∀ v ∈ workers, v.thread ≠ w.thread) (v : Worker) :
    v ∈ insertWorker w workers ↔ v = w ∨ v ∈ workers := by
  induction workers with
  | nil => simp [insertWorker]
  | cons u workers ih =>
      have rest := ih fun v member => absent v (List.mem_cons_of_mem _ member)
      have other : w.thread ≠ u.thread := Ne.symm (absent u List.mem_cons_self)
      rw [insertWorker]
      split
      · exact List.mem_cons
      · rw [List.mem_cons, rest, List.mem_cons]
        exact or_left_comm

theorem insertWorker_ordered (ordered : Ordered workers) (absent : ∀ v ∈ workers, v.thread ≠ w.thread) :
    Ordered (insertWorker w workers) := by
  induction workers with
  | nil => exact List.pairwise_singleton _ _
  | cons u workers ih =>
      obtain ⟨least, ordered'⟩ := List.pairwise_cons.mp ordered
      have others : ∀ v ∈ workers, v.thread ≠ w.thread := fun v member => absent v (List.mem_cons_of_mem _ member)
      have other : w.thread ≠ u.thread := Ne.symm (absent u List.mem_cons_self)
      rw [insertWorker]
      split
      · rename_i before
        refine List.pairwise_cons.mpr ⟨fun v member => ?_, ordered⟩
        rcases List.mem_cons.mp member with rfl | later
        · exact before
        · exact Nat.lt_trans before (least v later)
      · rename_i after
        refine List.pairwise_cons.mpr ⟨fun v member => ?_, ih ordered' others⟩
        rcases (mem_insertWorker others v).mp member with rfl | later
        · exact Nat.lt_of_le_of_ne (Nat.le_of_not_lt after) (Ne.symm other)
        · exact least v later

theorem erase_ordered (ordered : Ordered workers) (w : Worker) : Ordered (workers.erase w) :=
  ordered.sublist List.erase_sublist

end

/-! ## What a step can do -/

inductive PoolStep (s : ServerBootstrap) : PoolOp → ServerBootstrap → Prop
  | bind : PoolStep s .bind s.bindSocket
  | pushSocket {x : Nat} (called : .bind x ∈ s.calls) :
      PoolStep s (.pushSocket x) { s with sockets := s.sockets ++ [x], calls := s.calls.erase (.bind x) }
  | threadStarted {thread : Nat} (absent : findWorker thread s.workers = none) :
      PoolStep s (.threadStarted thread)
        { s with
          workers := insertWorker ⟨thread, s.nextWorker⟩ s.workers
          calls := s.calls ++ [.thread true ⟨thread, s.nextWorker⟩]
          nextWorker := s.nextWorker + 1 }
  | threadUnknown {thread : Nat} : PoolStep s (.threadStopped thread) s
  | threadStopped {thread : Nat} {w : Worker} (idle : ¬ s.isBusy thread = true) (found : findWorker thread s.workers = some w) :
      PoolStep s (.threadStopped thread) { s with workers := s.workers.erase w, calls := s.calls ++ [.thread false w] }
  | beginLoop {starting : Bool} {w : Worker} (called : .thread starting w ∈ s.calls) :
      PoolStep s (.beginLoop starting w)
        { s with calls := s.calls.erase (.thread starting w), loops := ⟨starting, w, s.sockets⟩ :: s.loops }
  | endLoop {starting : Bool} {w : Worker} (member : ⟨starting, w, []⟩ ∈ s.loops) :
      PoolStep s (.iterate ⟨starting, w, []⟩) { s with loops := s.loops.erase ⟨starting, w, []⟩ }
  | iterate {starting : Bool} {w : Worker} {x : Nat} {todo : List Nat} (member : ⟨starting, w, x :: todo⟩ ∈ s.loops) :
      PoolStep s (.iterate ⟨starting, w, x :: todo⟩)
        { s with
          acceptCallbacks := if starting then s.acceptCallbacks ++ [(x, w)] else s.acceptCallbacks.erase (x, w)
          loops := ⟨starting, w, todo⟩ :: s.loops.erase ⟨starting, w, x :: todo⟩ }

theorem poolStep {s s' : ServerBootstrap} {op : PoolOp} (taken : s.step op = .ok s') : PoolStep s op s' := by
  cases op with
  | bind =>
      cases taken
      exact .bind
  | pushSocket x =>
      simp only [ServerBootstrap.step, ServerBootstrap.pushSocket] at taken
      split at taken
      · rename_i called
        cases taken
        exact .pushSocket called
      · cases taken
  | threadStarted thread =>
      simp only [ServerBootstrap.step, ServerBootstrap.threadStarted] at taken
      split at taken
      · cases taken
      · rename_i free
        cases taken
        exact .threadStarted (Option.not_isSome_iff_eq_none.mp fun known => free (.inr known))
  | threadStopped thread =>
      simp only [ServerBootstrap.step, ServerBootstrap.threadStopped] at taken
      split at taken
      · cases taken
      · rename_i idle
        split at taken
        · cases taken
          exact .threadUnknown
        · rename_i w found
          cases taken
          exact .threadStopped idle found
  | beginLoop starting w =>
      simp only [ServerBootstrap.step, ServerBootstrap.beginLoop] at taken
      split at taken
      · rename_i called
        cases taken
        exact .beginLoop called
      · cases taken
  | iterate loop =>
      obtain ⟨starting, w, todo⟩ := loop
      simp only [ServerBootstrap.step, ServerBootstrap.iterate] at taken
      split at taken
      · rename_i member
        cases todo with
        | nil =>
            cases taken
            exact .endLoop member
        | cons x todo =>
            cases taken
            exact .iterate member
      · cases taken

theorem PoolStep.ordered {s s' : ServerBootstrap} {op : PoolOp} (takes : PoolStep s op s') (ordered : Ordered s.workers) :
    Ordered s'.workers := by
  cases takes with
  | threadStarted absent => exact insertWorker_ordered ordered (findWorker_none absent)
  | threadStopped idle found => exact erase_ordered ordered _
  | bind | pushSocket | threadUnknown | beginLoop | endLoop | iterate => exact ordered

end Wangle.Proof.Bootstrap
