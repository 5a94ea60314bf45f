import Wangle.Proof.Bootstrap.WorkerMap
import Wangle.Linked.Order
import Mathlib.Data.List.Count
import Mathlib.Logic.Function.Basic

/-!
# Which workers listen on which sockets

A call of `bind` reaches the workers first and the list of sockets second, and a starting or stopping thread
the other way round. A worker and a socket meet exactly once if the two calls go on in the order in which
they began.
-/

namespace Wangle.Proof.Bootstrap
open Wangle.Bootstrap Wangle.Linked ServerBootstrap
open Wangle.Transition hiding run

def Quiescent (s : ServerBootstrap) : Prop := s.calls = [] ∧ s.loops = []

def ListensOnce (s : ServerBootstrap) : Prop :=
  (∀ w ∈ s.workers, ∀ x ∈ s.sockets, s.acceptCallbacks.count (x, w) = 1) ∧
    ∀ x w, w ∉ s.workers → (x, w) ∉ s.acceptCallbacks

def isBind : Call → Bool
  | .bind _ => true
  | .thread _ _ => false

/-- A call does not go on before a call of the other kind that began earlier. -/
def InTurn (s : ServerBootstrap) : PoolOp → Prop
  | .pushSocket x => ∀ call ∈ s.calls, isBind call = false → ¬ Precedes call (.bind x) s.calls
  | .beginLoop starting w => ∀ call ∈ s.calls, isBind call = true → ¬ Precedes call (.thread starting w) s.calls
  | _ => True

/-! ## What a worker is registered with -/

inductive Status
  | absent
  | called (starting : Bool)
  | looping (starting : Bool) (todo : List Nat)
  | settled

def Status.inPool : Status → Bool
  | .absent => false
  | .called starting => starting
  | .looping starting _ => starting
  | .settled => true

def Status.todo : Status → List Nat
  | .looping _ todo => todo
  | _ => []

abbrev Bound (sockets : List Nat) (calls : List Call) (x : Nat) : Prop := x ∈ sockets ∨ .bind x ∈ calls

def tally (sockets : List Nat) (calls : List Call) (w : Worker) (x : Nat) : Status → Nat
  | .absent => 0
  | .called true => if Precedes (.thread true w) (.bind x) calls then 1 else 0
  | .called false => if x ∈ sockets ∨ Precedes (.bind x) (.thread false w) calls then 1 else 0
  | .looping true todo => if Bound sockets calls x ∧ x ∉ todo then 1 else 0
  | .looping false todo => if x ∈ todo then 1 else 0
  | .settled => if Bound sockets calls x then 1 else 0

structure Follows (s : ServerBootstrap) (w : Worker) (status : Status) : Prop where
  called : ∀ starting, .thread starting w ∈ s.calls ↔ status = .called starting
  looping : ∀ starting todo, ⟨starting, w, todo⟩ ∈ s.loops ↔ status = .looping starting todo
  pooled : w ∈ s.workers ↔ status.inPool = true
  todo_nodup : status.todo.Nodup
  todo_subset : status.todo ⊆ s.sockets
  counts : ∀ x, s.acceptCallbacks.count (x, w) = tally s.sockets s.calls w x status

structure Tracked (s : ServerBootstrap) (status : Worker → Status) : Prop where
  calls_nodup : s.calls.Nodup
  loops_nodup : s.loops.Nodup
  ordered : Ordered s.workers
  sockets_nodup : s.sockets.Nodup
  unlisted : ∀ x ∈ s.sockets, .bind x ∉ s.calls
  socket_lt : ∀ x, Bound s.sockets s.calls x → x < s.nextSocket
  fresh : ∀ w, s.nextWorker ≤ w.id → status w = .absent
  follows : ∀ w, Follows s w (status w)

theorem init_tracked : Tracked {} fun _ => .absent := by
  refine ⟨List.nodup_nil, List.nodup_nil, .nil, List.nodup_nil, by simp, by simp [Bound], fun _ _ => rfl, fun w => ?_⟩
  constructor <;> simp [Status.inPool, Status.todo, tally]

section
variable {s : ServerBootstrap} {status : Worker → Status} {w : Worker}

/-! ## The steps of `bind` -/

theorem count_registered {workers : List Worker} (nodup : workers.Nodup) (n x : Nat) (w : Worker) :
    (workers.map (n, ·)).count (x, w) = if x = n ∧ w ∈ workers then 1 else 0 := by
  by_cases same : x = n
  · subst same
    rw [List.count_map_of_injective _ _ (fun a b same => (Prod.mk.inj same).2), nodup.count]
    simp
  · rw [List.count_eq_zero.mpr, if_neg fun both => same both.1]
    simp [Ne.symm same]

theorem tally_bind (tracked : Tracked s status) (x : Nat) (w : Worker) :
    tally s.sockets (s.calls ++ [.bind s.nextSocket]) w x (status w) =
      tally s.sockets s.calls w x (status w) + if x = s.nextSocket ∧ w ∈ s.workers then 1 else 0 := by
  by_cases new : x = s.nextSocket
  · subst new
    obtain ⟨unlisted, uncalled⟩ := not_or.mp fun bound => Nat.lt_irrefl _ (tracked.socket_lt _ bound)
    have notAfter (call : Call) : ¬ Precedes call (.bind s.nextSocket) s.calls := fun order => uncalled order.right_mem
    have notBefore (call : Call) : ¬ Precedes (.bind s.nextSocket) call s.calls := fun order => uncalled order.left_mem
    have called := (tracked.follows w).called true
    have inPool := (tracked.follows w).pooled
    have due : s.nextSocket ∉ (status w).todo := fun member => unlisted ((tracked.follows w).todo_subset member)
    cases state : status w with
    | absent => simp_all [tally, Status.inPool]
    | called starting => cases starting <;> simp_all [tally, Status.inPool, Precedes.concat]
    | looping starting todo => cases starting <;> simp_all [tally, Status.inPool, Status.todo, Bound]
    | settled => simp_all [tally, Status.inPool, Bound]
  · cases status w with
    | called starting => cases starting <;> simp [tally, Precedes.concat, new]
    | looping starting todo => cases starting <;> simp [tally, Bound, new]
    | absent | settled => simp [tally, Bound, new]

theorem bind_tracked (tracked : Tracked s status) : Tracked s.bindSocket status := by
  obtain ⟨unlisted, uncalled⟩ := not_or.mp fun bound => Nat.lt_irrefl _ (tracked.socket_lt _ bound)
  refine ⟨?_, tracked.loops_nodup, tracked.ordered, tracked.sockets_nodup, ?_, ?_, tracked.fresh, fun w => ?_⟩
  · exact List.nodup_append_comm.mp (List.nodup_cons.mpr ⟨uncalled, tracked.calls_nodup⟩)
  · intro x listed called
    rcases List.mem_append.mp called with old | new
    · exact tracked.unlisted x listed old
    · simp only [List.mem_singleton, Call.bind.injEq] at new
      exact unlisted (new ▸ listed)
  · intro x bound
    simp only [Bound, bindSocket, List.mem_append, List.mem_singleton, Call.bind.injEq] at bound ⊢
    rcases bound with listed | called | rfl
    · exact Nat.lt_succ_of_lt (tracked.socket_lt x (.inl listed))
    · exact Nat.lt_succ_of_lt (tracked.socket_lt x (.inr called))
    · exact Nat.lt_succ_self _
  · have follows := tracked.follows w
    refine ⟨?_, follows.looping, follows.pooled, follows.todo_nodup, follows.todo_subset, fun x => ?_⟩
    · intro starting
      rw [← follows.called]
      simp [bindSocket]
    · rw [bindSocket, List.count_append, follows.counts, count_registered tracked.ordered.nodup, tally_bind tracked]

theorem tally_push {x : Nat} (tracked : Tracked s status) (called : .bind x ∈ s.calls)
    (inTurn : InTurn s (.pushSocket x)) (y : Nat) (w : Worker) :
    tally (s.sockets ++ [x]) (s.calls.erase (.bind x)) w y (status w) = tally s.sockets s.calls w y (status w) := by
  have nodup := tracked.calls_nodup
  have unlisted : x ∉ s.sockets := fun listed => tracked.unlisted x listed called
  by_cases same : y = x
  · subst same
    have due : y ∉ (status w).todo := fun member => unlisted ((tracked.follows w).todo_subset member)
    cases state : status w with
    | absent => rfl
    | settled => simp_all [tally, Bound]
    | looping starting todo => cases starting <;> simp_all [tally, Status.todo, Bound]
    | called starting =>
        have member := ((tracked.follows w).called starting).mpr state
        have late := inTurn _ member rfl
        cases starting with
        | true => simp [tally, Precedes.erase nodup, late]
        | false =>
            have early := (Precedes.total called member (by simp)).resolve_right late
            simp [tally, early]
  · cases status w with
    | called starting => cases starting <;> simp [tally, Precedes.erase nodup, same]
    | looping starting todo => cases starting <;> simp [tally, Bound, nodup.mem_erase_iff, same]
    | absent | settled => simp [tally, Bound, nodup.mem_erase_iff, same]

theorem pushSocket_tracked {x : Nat} (tracked : Tracked s status) (called : .bind x ∈ s.calls)
    (inTurn : InTurn s (.pushSocket x)) :
    Tracked { s with sockets := s.sockets ++ [x], calls := s.calls.erase (.bind x) } status := by
  have nodup := tracked.calls_nodup
  have unlisted : x ∉ s.sockets := fun listed => tracked.unlisted x listed called
  refine ⟨nodup.erase _, tracked.loops_nodup, tracked.ordered, ?_, ?_, ?_, tracked.fresh, fun w => ?_⟩
  · exact List.nodup_append_comm.mp (List.nodup_cons.mpr ⟨unlisted, tracked.sockets_nodup⟩)
  · intro y listed again
    rw [nodup.mem_erase_iff] at again
    rcases List.mem_append.mp listed with old | new
    · exact tracked.unlisted y old again.2
    · exact again.1 (congrArg Call.bind (List.mem_singleton.mp new))
  · intro y bound
    refine tracked.socket_lt y ?_
    rcases bound with listed | again
    · rcases List.mem_append.mp listed with old | new
      · exact .inl old
      · exact .inr (List.mem_singleton.mp new ▸ called)
    · exact .inr (List.mem_of_mem_erase again)
  · have follows := tracked.follows w
    refine ⟨?_, follows.looping, follows.pooled, follows.todo_nodup, ?_, fun x => ?_⟩
    · intro starting
      rw [← follows.called, nodup.mem_erase_iff]
      simp
    · exact List.Subset.trans follows.todo_subset (List.subset_append_left _ _)
    · exact (follows.counts x).trans (tally_push tracked called inTurn x w).symm

/-! ## The steps of a thread -/

theorem tally_concat {sockets : List Nat} {calls : List Call} {starting : Bool} {v : Worker} (other : v ≠ w) (x : Nat)
    (status : Status) :
    tally sockets (calls ++ [.thread starting w]) v x status = tally sockets calls v x status := by
  cases status with
  | called starting => cases starting <;> simp [tally, Precedes.concat, other]
  | looping starting todo => cases starting <;> simp [tally, Bound]
  | absent | settled => simp [tally, Bound]

theorem tally_erase {sockets : List Nat} {calls : List Call} {starting : Bool} {v : Worker} (nodup : calls.Nodup)
    (other : v ≠ w) (x : Nat) (status : Status) :
    tally sockets (calls.erase (.thread starting w)) v x status = tally sockets calls v x status := by
  cases status with
  | called starting => cases starting <;> simp [tally, Precedes.erase nodup, other]
  | looping starting todo => cases starting <;> simp [tally, Bound, nodup.mem_erase_iff]
  | absent | settled => simp [tally, Bound, nodup.mem_erase_iff]

theorem Tracked.idle (tracked : Tracked s status) (idle : ¬ s.isBusy w.thread = true) :
    status w = .absent ∨ status w = .settled := by
  simp only [isBusy, Bool.or_eq_true, List.any_eq_true, not_or, not_exists, not_and] at idle
  have follows := tracked.follows w
  cases state : status w with
  | absent => exact .inl rfl
  | settled => exact .inr rfl
  | called starting => exact absurd (by simp [Call.worker?]) (idle.1 _ ((follows.called starting).mpr state))
  | looping starting todo => exact absurd (by simp) (idle.2 _ ((follows.looping starting todo).mpr state))

theorem Follows.other {s' : ServerBootstrap} {v : Worker} {status : Status} (follows : Follows s v status)
    (called : ∀ starting, .thread starting v ∈ s'.calls ↔ .thread starting v ∈ s.calls)
    (looping : ∀ starting todo, ⟨starting, v, todo⟩ ∈ s'.loops ↔ ⟨starting, v, todo⟩ ∈ s.loops)
    (pooled : v ∈ s'.workers ↔ v ∈ s.workers) (sockets : s'.sockets = s.sockets)
    (counts : ∀ x, s'.acceptCallbacks.count (x, v) = s.acceptCallbacks.count (x, v))
    (same : ∀ x status, tally s.sockets s'.calls v x status = tally s.sockets s.calls v x status) :
    Follows s' v status := by
  refine ⟨fun starting => (called starting).trans (follows.called starting),
    fun starting todo => (looping starting todo).trans (follows.looping starting todo),
    pooled.trans follows.pooled, follows.todo_nodup, ?_, fun x => ?_⟩
  · rw [sockets]
    exact follows.todo_subset
  · rw [counts, follows.counts, sockets, same]

theorem threadStarted_tracked (tracked : Tracked s status) (fresh : w.id = s.nextWorker)
    (absent : findWorker w.thread s.workers = none) :
    Tracked
      { s with
        workers := insertWorker w s.workers
        calls := s.calls ++ [.thread true w]
        nextWorker := s.nextWorker + 1 }
      (Function.update status w (.called true)) := by
  have follows := tracked.follows w
  rw [tracked.fresh w (Nat.le_of_eq fresh.symm)] at follows
  have others := findWorker_none absent
  have uncalled (starting : Bool) : .thread starting w ∉ s.calls := by simp [follows.called]
  refine ⟨?_, tracked.loops_nodup, insertWorker_ordered tracked.ordered others, tracked.sockets_nodup, ?_, ?_, ?_,
    fun v => ?_⟩
  · exact List.nodup_append_comm.mp (List.nodup_cons.mpr ⟨uncalled true, tracked.calls_nodup⟩)
  · intro x listed called
    exact tracked.unlisted x listed (by simpa using called)
  · intro x bound
    exact tracked.socket_lt x (by simpa [Bound] using bound)
  · intro v later
    have other : v ≠ w := by
      rintro rfl
      exact absurd later (by rw [fresh]; exact Nat.not_succ_le_self _)
    rw [Function.update_of_ne other]
    exact tracked.fresh v (Nat.le_of_succ_le later)
  · by_cases same : v = w
    · subst same
      rw [Function.update_self]
      refine ⟨?_, ?_, by simp [mem_insertWorker others, Status.inPool], List.nodup_nil, by simp [Status.todo], fun x => ?_⟩
      · intro starting
        simp [uncalled, eq_comm]
      · simp [follows.looping]
      · have unlinked : ¬ Precedes (.thread true v) (.bind x) (s.calls ++ [.thread true v]) := by
          rw [Precedes.concat]
          rintro (order | ⟨-, bind⟩)
          · exact uncalled true order.left_mem
          · cases bind
        rw [follows.counts, tally, tally, if_neg unlinked]
    · rw [Function.update_of_ne same]
      refine (tracked.follows v).other ?_ (by simp) ?_ rfl (by simp) fun x => tally_concat same x
      · simp [same]
      · simp [mem_insertWorker others, same]

theorem threadStopped_tracked (tracked : Tracked s status) (settled : status w = .settled) :
    Tracked { s with workers := s.workers.erase w, calls := s.calls ++ [.thread false w] }
      (Function.update status w (.called false)) := by
  have follows := tracked.follows w
  rw [settled] at follows
  have uncalled (starting : Bool) : .thread starting w ∉ s.calls := by simp [follows.called]
  have nodup := tracked.ordered.nodup
  refine ⟨?_, tracked.loops_nodup, erase_ordered tracked.ordered w, tracked.sockets_nodup, ?_, ?_, ?_, fun v => ?_⟩
  · exact List.nodup_append_comm.mp (List.nodup_cons.mpr ⟨uncalled false, tracked.calls_nodup⟩)
  · intro x listed called
    exact tracked.unlisted x listed (by simpa using called)
  · intro x bound
    exact tracked.socket_lt x (by simpa [Bound] using bound)
  · intro v later
    have other : v ≠ w := by
      rintro rfl
      rw [tracked.fresh v later] at settled
      cases settled
    rw [Function.update_of_ne other]
    exact tracked.fresh v later
  · by_cases same : v = w
    · subst same
      rw [Function.update_self]
      refine ⟨?_, ?_, by simp [nodup.mem_erase_iff, Status.inPool], List.nodup_nil, by simp [Status.todo], fun x => ?_⟩
      · intro starting
        simp [uncalled, eq_comm]
      · simp [follows.looping]
      · rw [follows.counts]
        have order : Precedes (.bind x) (.thread false v) s.calls ↔ False :=
          iff_of_false (fun order => uncalled false order.right_mem) id
        simp [tally, Bound, Precedes.concat, order]
    · rw [Function.update_of_ne same]
      refine (tracked.follows v).other ?_ (by simp) ?_ rfl (by simp) fun x => tally_concat same x
      · simp [same]
      · simp [nodup.mem_erase_iff, same]

theorem beginLoop_tracked {starting : Bool} (tracked : Tracked s status) (called : .thread starting w ∈ s.calls)
    (inTurn : InTurn s (.beginLoop starting w)) :
    Tracked { s with calls := s.calls.erase (.thread starting w), loops := ⟨starting, w, s.sockets⟩ :: s.loops }
      (Function.update status w (.looping starting s.sockets)) := by
  have follows := tracked.follows w
  have state := (follows.called starting).mp called
  rw [state] at follows
  have nodup := tracked.calls_nodup
  have unlooped (b : Bool) (todo : List Nat) : ⟨b, w, todo⟩ ∉ s.loops := by simp [follows.looping]
  refine ⟨nodup.erase _, List.nodup_cons.mpr ⟨unlooped _ _, tracked.loops_nodup⟩, tracked.ordered, tracked.sockets_nodup,
    ?_, ?_, ?_, fun v => ?_⟩
  · exact fun x listed again => tracked.unlisted x listed (List.mem_of_mem_erase again)
  · exact fun x bound => tracked.socket_lt x (bound.imp_right List.mem_of_mem_erase)
  · intro v later
    have other : v ≠ w := by
      rintro rfl
      rw [tracked.fresh v later] at state
      cases state
    rw [Function.update_of_ne other]
    exact tracked.fresh v later
  · by_cases same : v = w
    · subst same
      rw [Function.update_self]
      refine ⟨?_, ?_, ?_, tracked.sockets_nodup, List.Subset.refl _, fun x => ?_⟩
      · intro b
        simp only [nodup.mem_erase_iff, follows.called]
        simp [eq_comm]
      · intro b todo
        simp [unlooped, eq_comm]
      · exact follows.pooled
      · rw [follows.counts]
        have late : ¬ Precedes (.bind x) (.thread starting v) s.calls := fun order => inTurn _ order.left_mem rfl order
        cases starting with
        | false => simp [tally, late]
        | true =>
            by_cases bind : .bind x ∈ s.calls
            · have early := (Precedes.total bind called (by simp)).resolve_left late
              have unlisted : x ∉ s.sockets := fun listed => tracked.unlisted x listed bind
              simp [tally, Bound, early, unlisted, nodup.mem_erase_iff, bind]
            · have unlinked : ¬ Precedes (.thread true v) (.bind x) s.calls := fun order => bind order.right_mem
              simp [tally, Bound, unlinked, nodup.mem_erase_iff, bind]
    · rw [Function.update_of_ne same]
      refine (tracked.follows v).other ?_ ?_ Iff.rfl rfl (by simp) fun x => tally_erase nodup same x
      · simp [nodup.mem_erase_iff, same]
      · simp [same]

theorem Tracked.loop {loop : SocketLoop} {after : Status} {loops : List SocketLoop} {callbacks : List (Nat × Worker)}
    (tracked : Tracked s status) (member : loop ∈ s.loops) (nodup : loops.Nodup)
    (own : Follows { s with acceptCallbacks := callbacks, loops := loops } loop.worker after)
    (others : ∀ v, v ≠ loop.worker → (∀ starting todo, ⟨starting, v, todo⟩ ∈ loops ↔ ⟨starting, v, todo⟩ ∈ s.loops) ∧
      ∀ x, callbacks.count (x, v) = s.acceptCallbacks.count (x, v)) :
    Tracked { s with acceptCallbacks := callbacks, loops := loops } (Function.update status loop.worker after) := by
  have state := ((tracked.follows loop.worker).looping loop.starting loop.todo).mp member
  refine ⟨tracked.calls_nodup, nodup, tracked.ordered, tracked.sockets_nodup, tracked.unlisted, tracked.socket_lt, ?_,
    fun v => ?_⟩
  · intro v later
    have other : v ≠ loop.worker := by
      rintro rfl
      rw [tracked.fresh _ later] at state
      cases state
    rw [Function.update_of_ne other]
    exact tracked.fresh v later
  · by_cases same : v = loop.worker
    · subst same
      rwa [Function.update_self]
    · rw [Function.update_of_ne same]
      obtain ⟨loops, counts⟩ := others v same
      exact (tracked.follows v).other (fun _ => Iff.rfl) loops Iff.rfl rfl counts fun _ _ => rfl

theorem endLoop_tracked {starting : Bool} (tracked : Tracked s status) (member : ⟨starting, w, []⟩ ∈ s.loops) :
    Tracked { s with loops := s.loops.erase ⟨starting, w, []⟩ }
      (Function.update status w (if starting then .settled else .absent)) := by
  have follows := tracked.follows w
  have state := (follows.looping starting []).mp member
  have nodup := tracked.loops_nodup
  rw [state] at follows
  refine tracked.loop member (nodup.erase _) ⟨?_, ?_, ?_, ?_, ?_, fun x => ?_⟩ fun v other => ⟨?_, fun x => rfl⟩
  · intro b
    rw [follows.called]
    cases starting <;> simp
  · intro b todo
    simp only [nodup.mem_erase_iff, follows.looping]
    cases starting <;> simp [eq_comm]
  · rw [follows.pooled]
    cases starting <;> simp [Status.inPool]
  · cases starting <;> exact List.nodup_nil
  · cases starting <;> exact List.nil_subset _
  · rw [follows.counts]
    cases starting <;> simp [tally]
  · intro b todo
    simp [nodup.mem_erase_iff, other]

theorem iterate_tracked {starting : Bool} {x : Nat} {todo : List Nat} (tracked : Tracked s status)
    (member : ⟨starting, w, x :: todo⟩ ∈ s.loops) :
    Tracked
      { s with
        acceptCallbacks :=
          if starting then s.acceptCallbacks ++ [(x, w)] else s.acceptCallbacks.erase (x, w)
        loops := ⟨starting, w, todo⟩ :: s.loops.erase ⟨starting, w, x :: todo⟩ }
      (Function.update status w (.looping starting todo)) := by
  have follows := tracked.follows w
  have state := (follows.looping starting (x :: todo)).mp member
  have nodup := tracked.loops_nodup
  rw [state] at follows
  obtain ⟨fresh, distinct⟩ := List.nodup_cons.mp follows.todo_nodup
  obtain ⟨listed, rest⟩ := List.cons_subset.mp follows.todo_subset
  refine tracked.loop member ?_ ⟨?_, ?_, follows.pooled, distinct, rest, fun y => ?_⟩ fun v other => ⟨?_, fun y => ?_⟩
  · refine List.nodup_cons.mpr ⟨fun again => ?_, nodup.erase _⟩
    have same := (follows.looping starting todo).mp (List.mem_of_mem_erase again)
    simp at same
  · intro b
    rw [follows.called]
    simp
  · intro b later
    simp only [List.mem_cons, nodup.mem_erase_iff, follows.looping, SocketLoop.mk.injEq, Status.looping.injEq]
    constructor
    · rintro (⟨rfl, -, rfl⟩ | ⟨other, rfl, rfl⟩)
      · exact ⟨rfl, rfl⟩
      · exact absurd rfl other
    · rintro ⟨rfl, rfl⟩
      exact .inl ⟨rfl, trivial, rfl⟩
  · have before := follows.counts y
    by_cases same : y = x
    · subst same
      cases starting <;> simp_all [tally, Bound]
    · cases starting <;> simp_all [tally, Bound, Ne.symm same]
  · intro b later
    simp [nodup.mem_erase_iff, other]
  · cases starting with
    | true => simp [Ne.symm other]
    | false => simp [List.count_erase, Ne.symm other]

end

/-! ## Runs -/

theorem step_tracked {s s' : ServerBootstrap} {op : PoolOp} (tracked : ∃ status, Tracked s status)
    (inTurn : InTurn s op) (taken : s.step op = .ok s') : ∃ status, Tracked s' status := by
  obtain ⟨status, tracked⟩ := tracked
  cases poolStep taken with
  | bind => exact ⟨_, bind_tracked tracked⟩
  | pushSocket called => exact ⟨_, pushSocket_tracked tracked called inTurn⟩
  | threadStarted absent => exact ⟨_, threadStarted_tracked tracked rfl absent⟩
  | threadUnknown => exact ⟨_, tracked⟩
  | @threadStopped _ w idle found =>
      obtain ⟨member, rfl⟩ := findWorker_some found
      refine ⟨_, threadStopped_tracked tracked ((tracked.idle idle).resolve_left fun absent => ?_)⟩
      have pooled := (tracked.follows w).pooled.mp member
      rw [absent] at pooled
      cases pooled
  | beginLoop called => exact ⟨_, beginLoop_tracked tracked called inTurn⟩
  | endLoop member => exact ⟨_, endLoop_tracked tracked member⟩
  | iterate member => exact ⟨_, iterate_tracked tracked member⟩

theorem Tracked.listensOnce {s : ServerBootstrap} {status : Worker → Status} (tracked : Tracked s status)
    (quiescent : Quiescent s) : ListensOnce s := by
  have idle (w : Worker) : status w = .absent ∨ status w = .settled := by
    refine tracked.idle ?_
    simp [isBusy, quiescent.1, quiescent.2]
  constructor
  · intro w member x listed
    have follows := tracked.follows w
    have pooled := follows.pooled.mp member
    rcases idle w with absent | settled
    · rw [absent] at pooled
      cases pooled
    · rw [follows.counts, settled, tally, if_pos (.inl listed)]
  · intro x w unpooled
    have follows := tracked.follows w
    rw [← List.count_eq_zero, follows.counts]
    rcases idle w with absent | settled
    · rw [absent, tally]
    · rw [settled] at follows
      exact absurd (follows.pooled.mpr rfl) unpooled

/-- In every run in which overlapping calls go on in the order in which they began, when no call is in
progress every worker of the pool is registered once with every bound socket, and no other worker with any. -/
theorem run_listensOnce (ops : List PoolOp) (s : ServerBootstrap) (inTurn : Along step InTurn {} ops)
    (done : run {} ops = .ok s) (quiescent : Quiescent s) : ListensOnce s := by
  obtain ⟨status, tracked⟩ := run_invariant (I := fun s => ∃ status, Tracked s status)
    (fun s op s' holds permitted taken => step_tracked holds permitted taken) ⟨_, init_tracked⟩ inTurn done
  exact tracked.listensOnce quiescent

instance (s : ServerBootstrap) (op : PoolOp) : Decidable (InTurn s op) := by
  unfold InTurn
  split <;> infer_instance

instance (s : ServerBootstrap) : Decidable (Quiescent s) := by
  unfold Quiescent
  infer_instance

def overlapping : List PoolOp :=
  [.threadStarted 0, .bind, .beginLoop true ⟨0, 0⟩, .pushSocket 0, .iterate ⟨true, ⟨0, 0⟩, []⟩]

theorem overlapping_listensOnce : ∃ s, run {} overlapping = .ok s ∧ s.workers = [⟨0, 0⟩] ∧ s.sockets = [0] ∧ ListensOnce s := by
  obtain ⟨s, done, workers, sockets, quiescent⟩ : ∃ s, run {} overlapping = .ok s ∧ s.workers = [⟨0, 0⟩] ∧ s.sockets = [0] ∧
      Quiescent s := Ends.exists_ok (by decide)
  exact ⟨s, done, workers, sockets, run_listensOnce overlapping s (by decide) done quiescent⟩

/-- A thread that starts between the two steps of `bind` does not listen on the socket; if both steps come
between those of the thread it listens twice; and a thread that stops between them goes on listening. -/
theorem overtaking_calls_not_listensOnce :
    (∃ s, run {} [.bind, .threadStarted 0, .beginLoop true ⟨0, 0⟩, .iterate ⟨true, ⟨0, 0⟩, []⟩, .pushSocket 0] = .ok s ∧
      Quiescent s ∧ ⟨0, 0⟩ ∈ s.workers ∧ 0 ∈ s.sockets ∧ s.acceptCallbacks.count (0, ⟨0, 0⟩) = 0) ∧
    (∃ s, run {} [.threadStarted 0, .bind, .pushSocket 0, .beginLoop true ⟨0, 0⟩, .iterate ⟨true, ⟨0, 0⟩, [0]⟩,
        .iterate ⟨true, ⟨0, 0⟩, []⟩] = .ok s ∧
      Quiescent s ∧ ⟨0, 0⟩ ∈ s.workers ∧ 0 ∈ s.sockets ∧ s.acceptCallbacks.count (0, ⟨0, 0⟩) = 2) ∧
    ∃ s, run {} [.threadStarted 0, .beginLoop true ⟨0, 0⟩, .iterate ⟨true, ⟨0, 0⟩, []⟩, .bind, .threadStopped 0,
        .beginLoop false ⟨0, 0⟩, .iterate ⟨false, ⟨0, 0⟩, []⟩, .pushSocket 0] = .ok s ∧
      Quiescent s ∧ ⟨0, 0⟩ ∉ s.workers ∧ (0, ⟨0, 0⟩) ∈ s.acceptCallbacks :=
  ⟨Ends.exists_ok (by decide), Ends.exists_ok (by decide), Ends.exists_ok (by decide)⟩

end Wangle.Proof.Bootstrap
