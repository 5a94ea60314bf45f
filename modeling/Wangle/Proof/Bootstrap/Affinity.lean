import Wangle.Bootstrap.RoutingServer
import Wangle.Proof.Bootstrap.HandOver
import Wangle.Proof.Bootstrap.WorkerMap
import Mathlib.Data.List.Perm.Basic

/-!
# Which worker a connection is routed to

The pool and every snapshot of it are ordered by the thread handles, so two snapshots with the same workers
are the same list, and the hash picks the same worker of both.
-/

namespace Wangle.Proof.Bootstrap
open Wangle.Bootstrap Wangle.Transition AcceptRoutingHandler

variable {R σ : Type}

abbrev SameWorkers (first second : List Worker) : Prop := first ⊆ second ∧ second ⊆ first

def Affine (s : RoutingServer R σ) : Prop :=
  (∀ route ∈ s.routes, route.worker ∈ route.pool) ∧
    ∀ first ∈ s.routes, ∀ second ∈ s.routes,
      first.routingData = second.routingData → SameWorkers first.pool second.pool → first.worker = second.worker

def Completes (routing : Routing R σ) (h : AcceptRoutingHandler R σ) (connId : Nat) (bytes : List UInt8) : Prop :=
  ∃ pipeline ∈ h.routingPipelines connId,
    (routing.parseRoutingData pipeline.handler (pipeline.bufQueue ++ bytes)).routingData.isSome

/-- Where a connection is routed, the snapshot of its handler has the workers that are in the pool. -/
def UpToDate (routing : Routing R σ) (s : RoutingServer R σ) : ServerOp R → Prop
  | .handler w (.readDataAvailable connId bytes) =>
      Completes routing (s.handlers w) connId bytes → SameWorkers (s.handlers w).acceptors s.pool.workers
  | _ => True

/-! ## Snapshots -/

theorem eq_of_sameWorkers {first second : List Worker} (ordered : Ordered first) (ordered' : Ordered second)
    (same : SameWorkers first second) : first = second := by
  have perm : first.Perm second := by
    rw [List.perm_ext_iff_of_nodup ordered.nodup ordered'.nodup]
    exact fun w => ⟨fun member => same.1 member, fun member => same.2 member⟩
  refine perm.eq_of_pairwise ?_ ordered ordered'
  intro v w _ _ lt gt
  exact absurd gt (Nat.lt_asymm lt)

/-! ## What a handler picks -/

section
variable [DecidableEq R] {routing : Routing R σ} {h h' : AcceptRoutingHandler R σ} {op : Op R}

omit [DecidableEq R] in
theorem read_acceptors (workers : List Worker) (valid : Bool) :
    (h.read routing workers valid).acceptors = h.acceptors ∨ (h.read routing workers valid).acceptors = workers := by
  have same : (h.read routing workers valid).acceptors = (h.populateAcceptors workers).acceptors := by
    unfold AcceptRoutingHandler.read
    cases valid <;> rfl
  rw [same, populateAcceptors]
  split
  · exact .inl rfl
  · exact .inr rfl

def taken? : Op R → Option (List Worker)
  | .read workers _ => some workers
  | _ => none

theorem Takes.acceptors (takes : Takes routing h op h') : h'.acceptors = h.acceptors ∨ taken? op = some h'.acceptors := by
  cases takes with
  | @read workers valid =>
      rcases @read_acceptors R σ routing h workers valid with same | snapshot
      · exact .inl same
      · exact .inr (congrArg some snapshot.symm)
  | wait | route | child | fail | childFail | late | error | runPosted => exact .inl rfl

theorem Takes.picked (takes : Takes routing h op h') {closure : Posted R} (new : closure ∈ RoutingServer.picked h h') :
    ∃ bytes, op = .readDataAvailable closure.connId bytes ∧ Completes routing h closure.connId bytes ∧
      h.acceptors[routing.hash closure.routingData % h.acceptors.length]? = some closure.worker := by
  have none_new (posted : h'.posted.length ≤ h.posted.length) : closure ∉ RoutingServer.picked h h' := by
    rw [RoutingServer.picked, List.drop_eq_nil_of_le posted]
    exact List.not_mem_nil
  cases takes with
  | @route c bytes pipeline parsed routingData bufQueue worker reading parse ready picked =>
      have posted : RoutingServer.picked h (routedTo h ⟨c, worker, routingData, bufQueue⟩) =
          [⟨c, worker, routingData, bufQueue⟩] := List.drop_left
      rw [posted, List.mem_singleton] at new
      subst new
      refine ⟨bytes, rfl, ⟨pipeline, reading, ?_⟩, picked⟩
      rw [parse, ready]
      rfl
  | @read workers valid =>
      have same : (h.read routing workers valid).posted = h.posted := by
        obtain ⟨acceptors, populated⟩ := populateAcceptors_eq workers h
        rw [AcceptRoutingHandler.read, populated]
        cases valid <;> rfl
      exact absurd new (none_new (Nat.le_of_eq (congrArg List.length same)))
  | wait | child | fail | childFail | late | error => exact absurd new (none_new (Nat.le_refl _))
  | runPosted member => exact absurd new (none_new List.length_erase_le)

end

/-! ## Routes -/

structure Route.Hashed (routing : Routing R σ) (route : Route R) : Prop where
  ordered : Ordered route.pool
  picked : route.pool[routing.hash route.routingData % route.pool.length]? = some route.worker

structure Routed (routing : Routing R σ) (s : RoutingServer R σ) : Prop where
  pool : Ordered s.pool.workers
  snapshots : ∀ w, Ordered (s.handlers w).acceptors
  routes : ∀ route ∈ s.routes, Route.Hashed routing route

theorem Routed.affine {routing : Routing R σ} {s : RoutingServer R σ} (routed : Routed routing s) : Affine s := by
  constructor
  · intro route member
    exact List.mem_of_getElem? (routed.routes route member).picked
  · intro first member second member' equal same
    have hashed := routed.routes first member
    have hashed' := routed.routes second member'
    have pools := eq_of_sameWorkers hashed.ordered hashed'.ordered same
    have picked := hashed.picked
    rw [pools, equal, hashed'.picked] at picked
    exact (Option.some.inj picked).symm

section
variable [DecidableEq R] {routing : Routing R σ} {s s' : RoutingServer R σ}

theorem Routed.handle {w : Worker} {op : Op R} (routed : Routed routing s)
    (current : ∀ workers, taken? op = some workers → workers = s.pool.workers)
    (upToDate : UpToDate routing s (.handler w op)) (taken : s.handle routing w op = .ok s') : Routed routing s' := by
  rw [RoutingServer.handle] at taken
  split at taken
  · split at taken
    · cases taken
    · rename_i handler stepped
      cases taken
      have takes := takes stepped
      have ordered : Ordered handler.acceptors := by
        rcases takes.acceptors with same | snapshot
        · rw [same]
          exact routed.snapshots w
        · rw [current _ snapshot]
          exact routed.pool
      refine ⟨routed.pool, fun v => ?_, fun route member => ?_⟩
      · change Ordered (Function.update s.handlers w handler v).acceptors
        rw [Function.update_apply]
        split
        · exact ordered
        · exact routed.snapshots v
      · rcases List.mem_append.mp member with old | new
        · exact routed.routes route old
        · obtain ⟨closure, posted, rfl⟩ := List.mem_map.mp new
          obtain ⟨bytes, rfl, completes, picked⟩ := takes.picked posted
          have same := eq_of_sameWorkers (routed.snapshots w) routed.pool (upToDate completes)
          rw [same] at picked
          exact ⟨routed.pool, picked⟩
  · cases taken

theorem Routed.step {op : ServerOp R} (routed : Routed routing s) (upToDate : UpToDate routing s op)
    (taken : s.step routing op = .ok s') : Routed routing s' := by
  cases op with
  | pool op =>
      rw [RoutingServer.step] at taken
      split at taken
      · cases taken
      · rename_i pool stepped
        cases taken
        exact ⟨(poolStep stepped).ordered routed.pool, routed.snapshots, routed.routes⟩
  | accept w valid =>
      refine @Routed.handle _ _ _ routing s s' w (.read s.pool.workers valid) routed ?_ trivial taken
      rintro workers ⟨⟩
      rfl
  | handler w op =>
      cases op with
      | read workers valid => cases taken
      | readDataAvailable | readFailed | onRoutingData | onError | runPosted =>
          refine routed.handle ?_ upToDate taken
          rintro workers ⟨⟩

theorem run_affine (routing : Routing R σ) (ops : List (ServerOp R)) (s : RoutingServer R σ)
    (upToDate : Along (RoutingServer.step routing) (UpToDate routing) {} ops)
    (done : RoutingServer.run routing {} ops = .ok s) : Affine s := by
  have start : Routed routing ({} : RoutingServer R σ) := ⟨.nil, fun _ => .nil, nofun⟩
  exact (run_invariant (fun s op s' routed permitted taken => Routed.step routed permitted taken) start upToDate done).affine

end

instance (routing : Routing R σ) (h : AcceptRoutingHandler R σ) (connId : Nat) (bytes : List UInt8) :
    Decidable (Completes routing h connId bytes) := by
  unfold Completes
  infer_instance

instance (routing : Routing R σ) (s : RoutingServer R σ) (op : ServerOp R) : Decidable (UpToDate routing s op) := by
  unfold UpToDate
  split <;> infer_instance

def twoAccept : List (ServerOp UInt8) :=
  [.pool (.threadStarted 1), .pool (.threadStarted 2), .pool (.beginLoop true ⟨2, 1⟩), .pool (.iterate ⟨true, ⟨2, 1⟩, []⟩),
    .accept ⟨1, 0⟩ true, .accept ⟨2, 1⟩ true]

theorem two_handlers_affine :
    ∃ s, RoutingServer.run secondByte {} (twoAccept ++ [.handler ⟨1, 0⟩ (.readDataAvailable 0 [65, 3]),
        .handler ⟨2, 1⟩ (.readDataAvailable 0 [65]), .handler ⟨2, 1⟩ (.readDataAvailable 0 [3])]) = .ok s ∧
      s.routes.map (·.worker) = [⟨2, 1⟩, ⟨2, 1⟩] ∧ Affine s := by
  have ends : Ends (fun s => s.routes.map (·.worker) = [⟨2, 1⟩, ⟨2, 1⟩])
      (RoutingServer.run secondByte {} (twoAccept ++ [.handler ⟨1, 0⟩ (.readDataAvailable 0 [65, 3]),
        .handler ⟨2, 1⟩ (.readDataAvailable 0 [65]), .handler ⟨2, 1⟩ (.readDataAvailable 0 [3])])) := by decide +kernel
  obtain ⟨s, done, workers⟩ := ends.exists_ok
  exact ⟨s, done, workers, run_affine secondByte _ s (by decide +kernel) done⟩

theorem old_snapshot_not_affine :
    (∃ s, RoutingServer.run secondByte {} (twoAccept ++ [.pool (.threadStopped 2),
        .handler ⟨1, 0⟩ (.readDataAvailable 0 [65, 3])]) = .ok s ∧
      s.routes = [⟨3, ⟨2, 1⟩, [⟨1, 0⟩]⟩]) ∧
    ∃ s, RoutingServer.run secondByte {} (twoAccept ++ [.pool (.threadStarted 3), .accept ⟨3, 2⟩ true,
        .handler ⟨1, 0⟩ (.readDataAvailable 0 [65, 2]), .handler ⟨3, 2⟩ (.readDataAvailable 0 [65, 2])]) = .ok s ∧
      s.routes = [⟨2, ⟨1, 0⟩, [⟨1, 0⟩, ⟨2, 1⟩, ⟨3, 2⟩]⟩, ⟨2, ⟨3, 2⟩, [⟨1, 0⟩, ⟨2, 1⟩, ⟨3, 2⟩]⟩] :=
  ⟨Ends.exists_ok (by decide +kernel), Ends.exists_ok (by decide +kernel)⟩

end Wangle.Proof.Bootstrap
