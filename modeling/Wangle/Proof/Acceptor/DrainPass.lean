import Wangle.Intrusive.Sweep
import Wangle.Proof.Acceptor.DrainCheck
import Wangle.Proof.Acceptor.Progress

/-!
# Drain passes under removals

A pass is spread over turns of the drain helper, with removals in between. What the pass has left of its
range stays fixed between two turns, and the drain iterator has before it what is still managed of that.
-/

namespace Wangle.Proof.Acceptor
open Wangle.Acceptor Wangle.Intrusive Wangle.Transition ConnectionManager

variable {Conn : Type} [DecidableEq Conn]

def firings (reaction : Reaction Conn) :
    Nat → Option Conn → ConnectionManager Conn → List (Conn × List Conn)
  | 0, _, _ => []
  | _+1, none, _ => []
  | n+1, some c, s => (c, s.conns) :: firings reaction n (next c s.conns) (DrainHelper.drainOne reaction c s)

def turn (s : ConnectionManager Conn) : Op Conn → List (List (Conn × List Conn))
  | .runLoopCallback reaction =>
      [firings reaction 64 s.drainIterator
        { s with drainHelper := { s.drainHelper with isLoopCallbackScheduled := false } }]
  | _ => []

def turns : ConnectionManager Conn → List (Op Conn) → List (List (Conn × List Conn))
  | _, [] => []
  | s, op :: ops => match s.step op with
      | .error _ => turn s op
      | .ok s' => turn s op ++ turns s' ops

/-- The callback of a connection of the range removes none that comes after it there. -/
def Behind (range : List Conn) (reaction : Reaction Conn) : Prop :=
  ∀ c ∈ range, ∀ x ∈ reaction c, ¬ [c, x].Sublist range

instance (range : List Conn) (reaction : Reaction Conn) : Decidable (Behind range reaction) :=
  inferInstanceAs (Decidable (∀ c ∈ range, ∀ x ∈ reaction c, ¬ [c, x].Sublist range))

def Meanwhile (range : List Conn) (phase : ShutdownState) (s : ConnectionManager Conn) : Op Conn → Prop
  | .removeConnection _ => True
  | .runLoopCallback reaction => s.drainHelper.shutdownState = phase ∧ Behind range reaction
  | _ => False

instance (range : List Conn) (phase : ShutdownState) (s : ConnectionManager Conn) :
    (op : Op Conn) → Decidable (Meanwhile range phase s op)
  | .removeConnection _ => inferInstanceAs (Decidable True)
  | .runLoopCallback reaction => inferInstanceAs (Decidable (s.drainHelper.shutdownState = phase ∧ Behind range reaction))
  | .addConnection .. | .onActivated _ | .onDeactivated _ | .initiateGracefulShutdown .. | .drainConnections ..
  | .dropConnections .. | .dropAllConnections _ | .dropIdleConnections .. | .timeoutExpired _ | .runPendingAdd .. =>
      inferInstanceAs (Decidable False)

def completedState (h : DrainHelper) : ShutdownState :=
  if h.shutdownState = .notifyPendingShutdown then
    if h.isScheduled then .notifyPendingShutdownComplete else .closeWhenIdle
  else .closeWhenIdleComplete

def isCallback : Event Conn → Bool
  | .notifyPendingShutdown _ | .closeWhenIdle _ => true
  | _ => false

def visitCalls (entry : ConnectionManager Conn) (c : Conn) : List (Event Conn) :=
  if entry.drainHelper.shutdownState = .notifyPendingShutdown then
    if entry.drainState c = .none then [.notifyPendingShutdown c] else []
  else if entry.notifyPendingShutdown = false ∨ entry.drainState c = .sentNotifyPendingShutdown then [.closeWhenIdle c]
  else []

/-- Since `entry` the connections that are `seen`, and no others, have been told what was due, in this order. -/
structure Called (entry : ConnectionManager Conn) (seen : List Conn) (s : ConnectionManager Conn) : Prop where
  trace : s.trace.filter isCallback = entry.trace.filter isCallback ++ seen.flatMap (visitCalls entry)
  drainState : ∀ c, s.drainState c = if c ∈ seen then visited entry (entry.drainState c) else entry.drainState c

omit [DecidableEq Conn] in
theorem Quietly.callbacks {s s' : ConnectionManager Conn} (quietly : Quietly s s') :
    s'.trace.filter isCallback = s.trace.filter isCallback := by
  obtain ⟨more, grown, quiet⟩ := quietly.trace
  have none : more.filter isCallback = [] := by
    refine List.filter_eq_nil_iff.mpr fun e member => ?_
    cases e with
    | notifyPendingShutdown c => exact absurd rfl (quiet _ member c).1
    | closeWhenIdle c => exact absurd rfl (quiet _ member c).2
    | _ => simp [isCallback]
  rw [grown, List.filter_append, none, List.append_nil]

theorem drainOne_callbacks (reaction : Reaction Conn) (c : Conn) (s : ConnectionManager Conn) :
    (DrainHelper.drainOne reaction c s).trace.filter isCallback = s.trace.filter isCallback ++ visitCalls s c := by
  unfold DrainHelper.drainOne visitCalls
  split
  · unfold fireNotifyPendingShutdown
    split
    · rw [(removeConnections_quietly _ _).callbacks]
      simp [record, setDrainState, isCallback]
    · rw [List.append_nil]
  · unfold fireCloseWhenIdle
    simp only [Bool.not_eq_eq_eq_not, Bool.not_true]
    split
    · rw [(removeConnections_quietly _ _).callbacks]
      simp [record, setDrainState, isCallback]
    · rw [List.append_nil]

omit [DecidableEq Conn] in
theorem visitCalls_congr {s entry : ConnectionManager Conn} {c : Conn}
    (phase : s.drainHelper.shutdownState = entry.drainHelper.shutdownState)
    (notifies : s.notifyPendingShutdown = entry.notifyPendingShutdown) (same : s.drainState c = entry.drainState c) :
    visitCalls s c = visitCalls entry c := by
  simp only [visitCalls, phase, notifies, same]

namespace Called
variable {entry s s' : ConnectionManager Conn} {seen : List Conn}

theorem quietly (called : Called entry seen s) (quietly : Quietly s s') : Called entry seen s' :=
  ⟨quietly.callbacks.trans called.trace, quietly.drainState ▸ called.drainState⟩

theorem visit (called : Called entry seen s) (reaction : Reaction Conn) {c : Conn}
    (phase : s.drainHelper.shutdownState = entry.drainHelper.shutdownState)
    (notifies : s.notifyPendingShutdown = entry.notifyPendingShutdown) (unseen : c ∉ seen) :
    Called entry (seen ++ [c]) (DrainHelper.drainOne reaction c s) := by
  have untouched : s.drainState c = entry.drainState c := by rw [called.drainState, if_neg unseen]
  refine ⟨?_, fun x => ?_⟩
  · rw [drainOne_callbacks, called.trace, visitCalls_congr phase notifies untouched, List.flatMap_append,
      List.flatMap_singleton, List.append_assoc]
  · rw [drainOne_drainState]
    by_cases same : x = c
    · subst same
      simp only [Function.update_self, untouched, visited, phase, notifies, List.mem_append, List.mem_singleton,
        or_true, if_true]
    · simp only [Function.update_of_ne same, called.drainState, List.mem_append, List.mem_singleton, same, or_false]

end Called

inductive Fired (reaction : Reaction Conn) :
    ConnectionManager Conn → List (Conn × List Conn) → ConnectionManager Conn → Prop
  | stop (s : ConnectionManager Conn) : Fired reaction s [] s
  | fire {c : Conn} {s m : ConnectionManager Conn} {log : List (Conn × List Conn)}
      (further : Fired reaction (DrainHelper.drainOne reaction c s) log m) : Fired reaction s ((c, s.conns) :: log) m

theorem drainLoop_fired {reaction : Reaction Conn} {n : Nat} {it it' : Option Conn} {s m : ConnectionManager Conn}
    (done : DrainHelper.drainLoop reaction n it s = .ok (it', m)) : Fired reaction s (firings reaction n it s) m := by
  induction n generalizing it s with
  | zero =>
      cases done
      exact .stop _
  | succ n ih =>
      cases it with
      | none =>
          cases done
          exact .stop _
      | some c =>
          rw [DrainHelper.drainLoop] at done
          split at done
          · exact .fire (ih done)
          · cases done

theorem Fired.called {reaction : Reaction Conn} {log : List (Conn × List Conn)} {entry s m : ConnectionManager Conn}
    {seen : List Conn} (fired : Fired reaction s log m) (called : Called entry seen s)
    (phase : s.drainHelper.shutdownState = entry.drainHelper.shutdownState)
    (notifies : s.notifyPendingShutdown = entry.notifyPendingShutdown) (nodup : (seen ++ log.map Prod.fst).Nodup) :
    Called entry (seen ++ log.map Prod.fst) m := by
  induction fired generalizing seen with
  | stop s => rwa [List.map_nil, List.append_nil]
  | @fire c s m log further ih =>
      have unseen : c ∉ seen := fun member => (List.nodup_append.mp nodup).2.2 c member c List.mem_cons_self rfl
      have same := (drainOne_effects reaction c s).sameDrain
      rw [List.map_cons, ← List.singleton_append, ← List.append_assoc] at nodup ⊢
      refine ih (called.visit reaction phase notifies unseen) ?_ (same.notifyPendingShutdown.trans notifies) nodup
      rw [same.drainHelper, phase]

/-! ## A turn -/

omit [DecidableEq Conn] in
theorem Behind.sublist {range ahead : List Conn} {reaction : Reaction Conn} (behind : Behind range reaction)
    (sublist : ahead.Sublist range) : Behind ahead reaction :=
  fun c member x removed later => behind c (sublist.subset member) x removed (later.trans sublist)

structure Turned (reaction : Reaction Conn) (n : Nat) (it : Option Conn) (ahead : List Conn)
    (s m : ConnectionManager Conn) : Prop where
  loop : DrainHelper.drainLoop reaction n it s = .ok ((ahead.drop n).head?, m)
  effects : Effects s m
  conns : ∃ before, m.conns = before ++ ahead.drop n
  visits : Visits ahead (firings reaction n it s) (ahead.drop n)
  shrinks : ∀ v ∈ firings reaction n it s, v.2 ⊆ s.conns
  length : (firings reaction n it s).length = min n ahead.length

theorem drainLoop_turned {reaction : Reaction Conn} {n : Nat} {it : Option Conn} {before ahead : List Conn}
    {s : ConnectionManager Conn} (wf : WellFormed s) (divides : Divides s.conns it before ahead)
    (behind : Behind ahead reaction) : ∃ m, Turned reaction n it ahead s m := by
  induction n generalizing it before ahead s with
  | zero =>
      refine ⟨s, ?_, .refl, ⟨before, divides.eq⟩, .stop ahead, by simp [firings], by simp [firings]⟩
      rw [DrainHelper.drainLoop, divides.stands, List.drop_zero]
  | succ n ih =>
      cases it with
      | none =>
          obtain rfl := List.head?_eq_none_iff.mp divides.stands.symm
          exact ⟨s, rfl, .refl, ⟨before, divides.eq⟩, .stop [], by simp [firings], by simp [firings]⟩
      | some c =>
          obtain ⟨tail, rfl⟩ := List.head?_eq_some_iff.mp divides.stands.symm
          have effects := drainOne_effects reaction c s
          have advanced := divides.advance wf.nodup
          have kept {x : Conn} (member : x ∈ tail) : x ∈ (DrainHelper.drainOne reaction c s).conns := by
            refine drainOne_keeps wf ?_ fun removed => ?_
            · rw [divides.eq]
              exact List.mem_append_right _ (List.mem_cons_of_mem _ member)
            · exact behind c List.mem_cons_self x removed ((List.singleton_sublist.mpr member).cons_cons c)
          have stands : ∀ x, next c s.conns = some x → x ∈ (DrainHelper.drainOne reaction c s).conns :=
            fun x stands => kept (List.mem_of_mem_head? (advanced.stands ▸ stands))
          have whole : tail.filter (· ∈ (DrainHelper.drainOne reaction c s).conns) = tail :=
            List.filter_eq_self.mpr fun x member => by simpa using kept member
          have moved := advanced.sublist effects.conns_sublist wf.nodup stands
          rw [whole] at moved
          obtain ⟨m, turned⟩ := ih (effects.wellFormed wf) moved (behind.sublist (List.sublist_cons_self c tail))
          have there : c ∈ s.conns := divides.mem c rfl
          refine ⟨m, ?_, effects.trans turned.effects, turned.conns, .cons there turned.visits, ?_, ?_⟩
          · rw [DrainHelper.drainLoop, if_pos, turned.loop, List.drop_succ_cons]
            cases following : next c s.conns with
            | none => rfl
            | some x => simpa using stands x following
          · intro v member
            rcases List.mem_cons.mp member with rfl | member
            · exact List.Subset.refl _
            · exact List.Subset.trans (turned.shrinks v member) effects.conns_sublist.subset
          · rw [firings, List.length_cons, turned.length, List.length_cons, Nat.succ_min_succ]

theorem drainConnections_turned {reaction : Reaction Conn} {s : ConnectionManager Conn} (wf : WellFormed s)
    (active : Active s.drainHelper) (behind : Behind (remaining s) reaction) :
    ∃ m s', Turned reaction 64 s.drainIterator (remaining s) s m ∧ Finished ((remaining s).drop 64) m s' ∧
      DrainHelper.drainConnections reaction s = .ok s' := by
  obtain ⟨before, divides⟩ := exists_divides wf.drain
  obtain ⟨m, turned⟩ := drainLoop_turned (n := 64) wf divides behind
  refine ⟨m, _, turned, finishDrain_finished _ m, ?_⟩
  rw [DrainHelper.drainConnections, if_pos (show _ ∨ _ from active), turned.loop]
  rfl

/-! ## From turn to turn -/

section turns
variable {range left left' : List Conn} {log : List (List (Conn × List Conn))} {entry s m s' : ConnectionManager Conn}
  {reaction : Reaction Conn} {rest : List Conn}

structure Resumable (left : List Conn) (entry : ConnectionManager Conn) (log : List (List (Conn × List Conn)))
    (s : ConnectionManager Conn) : Prop extends WellFormed s where
  phase : s.drainHelper.shutdownState = entry.drainHelper.shutdownState
  timer : s.drainHelper.isScheduled = entry.drainHelper.isScheduled
  notifies : s.notifyPendingShutdown = entry.notifyPendingShutdown
  ahead : remaining s = left.filter (· ∈ s.conns)
  full : log.flatten.length = 64 * log.length

inductive Standing (left : List Conn) (entry : ConnectionManager Conn) (log : List (List (Conn × List Conn)))
    (s : ConnectionManager Conn) : Prop
  | suspended (resumable : Resumable left entry log s) (scheduled : s.drainHelper.isLoopCallbackScheduled = true)
      (more : left ≠ [])
  | ended (wf : WellFormed s) (completed : s.drainHelper.shutdownState = completedState entry.drainHelper)
      (gone : ∀ c ∈ left, c ∉ s.conns)

structure Swept (range left : List Conn) (entry : ConnectionManager Conn) (log : List (List (Conn × List Conn)))
    (s : ConnectionManager Conn) : Prop where
  nodup : range.Nodup
  swept : Visits range log.flatten left
  called : Called entry (log.flatten.map Prod.fst) s
  bounded : ∀ turn ∈ log, turn.length ≤ 64

structure Passing (range left : List Conn) (entry : ConnectionManager Conn) (log : List (List (Conn × List Conn)))
    (s : ConnectionManager Conn) : Prop extends Swept range left entry log s where
  standing : Standing left entry log s

omit [DecidableEq Conn] in
theorem Finished.eq_of_more (finished : Finished rest m s') (more : rest ≠ []) :
    s' = { m with
      drainIterator := rest.head?
      drainHelper := { m.drainHelper with isLoopCallbackScheduled := true } } := by
  cases finished with
  | more => rfl
  | notified empty | expired empty | closed empty => exact absurd empty more

omit [DecidableEq Conn] in
theorem Finished.completed (finished : Finished rest m s') (empty : rest = []) :
    s'.drainHelper.shutdownState = completedState m.drainHelper := by
  cases finished with
  | more left => exact absurd empty left
  | notified empty notifying waiting => simp [completedState, notifying, waiting]
  | expired empty notifying late => simp [completedState, notifying, late]
  | closed empty closing => simp [completedState, closing]

theorem completedState_congr {h h' : DrainHelper} (phase : h'.shutdownState = h.shutdownState)
    (timer : h'.isScheduled = h.isScheduled) : completedState h' = completedState h := by
  rw [completedState, completedState, phase, timer]

theorem Resumable.stands (resumable : Resumable left entry log s)
    (turned : Turned reaction 64 s.drainIterator (remaining s) s m) (finished : Finished ((remaining s).drop 64) m s')
    (wf' : WellFormed s') (rest : left'.filter (· ∈ s.conns) = (remaining s).drop 64) :
    Standing left' entry (log ++ [firings reaction 64 s.drainIterator s]) s' := by
  have helper : m.drainHelper = s.drainHelper := turned.effects.sameDrain.drainHelper
  have conns : s'.conns = m.conns := finished.same.1
  have kept := turned.effects.conns_sublist
  obtain ⟨before, eq⟩ := turned.conns
  by_cases empty : (remaining s).drop 64 = []
  · refine .ended wf' ?_ ?_
    · rw [finished.completed empty, helper]
      exact completedState_congr resumable.phase resumable.timer
    · intro c member inside
      rw [empty] at rest
      refine List.filter_eq_nil_iff.mp rest c member ?_
      rw [conns] at inside
      simpa using kept.subset inside
  · have nodup : m.conns.Nodup := (turned.effects.wellFormed resumable.toWellFormed).nodup
    have suspended := finished.eq_of_more empty
    have stays : ∀ c ∈ (remaining s).drop 64, c ∈ m.conns := by
      intro c member
      rw [eq]
      exact List.mem_append_right _ member
    have ahead : left'.filter (· ∈ m.conns) = (remaining s).drop 64 := by
      rw [← rest]
      refine List.filter_congr fun c member => decide_eq_decide.mpr ⟨fun there => kept.subset there, fun there => ?_⟩
      refine stays c ?_
      rw [← rest]
      exact List.mem_filter.mpr ⟨member, by simpa using there⟩
    subst suspended
    refine .suspended ⟨wf', ?_, ?_, ?_, ?_, ?_⟩ rfl ?_
    · exact (congrArg _ helper).trans resumable.phase
    · exact (congrArg _ helper).trans resumable.timer
    · exact turned.effects.sameDrain.notifyPendingShutdown.trans resumable.notifies
    · exact ((Divides.mk eq rfl).onward_eq nodup).trans ahead.symm
    · have long : 64 ≤ (remaining s).length := by
        rw [List.drop_eq_nil_iff, Nat.not_le] at empty
        exact Nat.le_of_lt empty
      rw [List.flatten_append, List.length_append, List.flatten_singleton, turned.length, resumable.full,
        Nat.min_eq_left long, List.length_append, List.length_singleton, Nat.mul_succ]
    · rintro rfl
      exact empty rest.symm

theorem Resumable.turn (resumable : Resumable left entry log s) (active : Active entry.drainHelper)
    (swept : Swept range left entry log s) (behind : Behind range reaction) :
    ∃ left' s', DrainHelper.drainConnections reaction s = .ok s' ∧
      Passing range left' entry (log ++ [firings reaction 64 s.drainIterator s]) s' := by
  have wf := resumable.toWellFormed
  have behind' : Behind (remaining s) reaction := by
    refine behind.sublist ?_
    rw [resumable.ahead]
    exact (List.filter_sublist.trans (List.sublist_append_right _ _)).trans swept.swept.sublist
  have active' : Active s.drainHelper := by rwa [Active, resumable.phase]
  obtain ⟨m, s', turned, finished, done⟩ := drainConnections_turned wf active' behind'
  have visits := turned.visits
  rw [resumable.ahead] at visits
  obtain ⟨left', further, rest⟩ := visits.of_filter turned.shrinks
  rw [← resumable.ahead] at rest
  have flat : (log ++ [firings reaction 64 s.drainIterator s]).flatten =
      log.flatten ++ firings reaction 64 s.drainIterator s := by rw [List.flatten_append, List.flatten_singleton]
  have whole := swept.swept.append further
  -- no connection is visited twice, so what is due to it is what was due at the entry
  have once := (List.nodup_append.mp (whole.sublist.nodup swept.nodup)).1
  rw [List.map_append] at once
  have stands := resumable.stands turned finished (drainConnections_wellFormed wf done) rest
  refine ⟨left', s', done, ⟨swept.nodup, ?_, ?_, ?_⟩, stands⟩
  · rwa [flat]
  · rw [flat, List.map_append]
    refine Called.quietly ?_ finished.quietly
    exact (drainLoop_fired turned.loop).called swept.called resumable.phase resumable.notifies once
  · intro turn member
    rcases List.mem_append.mp member with old | new
    · exact swept.bounded turn old
    · rw [List.mem_singleton.mp new, turned.length]
      exact Nat.min_le_left _ _

theorem Passing.remove (passing : Passing range left entry log s) (c : Conn) :
    Passing range left entry log (s.removeConnection c) := by
  have effects := removeConnection_effects c s
  have helper := effects.sameDrain.drainHelper
  have called := passing.called.quietly (removeConnection_quietly c s)
  refine ⟨⟨passing.nodup, passing.swept, called, passing.bounded⟩, ?_⟩
  cases passing.standing with
  | suspended resumable scheduled more =>
      have wf := resumable.toWellFormed
      refine .suspended ⟨wf.removeConnection c, ?_, ?_, ?_, ?_, resumable.full⟩ ?_ more
      · rw [helper, resumable.phase]
      · rw [helper, resumable.timer]
      · exact effects.sameDrain.notifyPendingShutdown.trans resumable.notifies
      · have nodup : (remaining s).Nodup := (onward_sublist _ _).nodup wf.nodup
        rw [removeConnection_remaining wf, removeConnection_conns wf.toListed, nodup.erase_eq_filter, resumable.ahead,
          List.filter_filter]
        refine List.filter_congr fun x member => ?_
        rw [Bool.eq_iff_iff]
        simp [wf.nodup.mem_erase_iff]
      · rw [helper, scheduled]
  | ended wf completed gone =>
      refine .ended (wf.removeConnection c) ?_ fun x member inside => ?_
      · rw [helper, completed]
      · exact gone x member (effects.conns_sublist.subset inside)

theorem completedState_ne {h : DrainHelper} (active : Active h) : completedState h ≠ h.shutdownState := by
  unfold completedState
  rcases active with notifying | closing
  · rw [if_pos notifying, notifying]
    split <;> decide
  · rw [if_neg (by simp [closing]), closing]
    decide

theorem Passing.step {op : Op Conn} (passing : Passing range left entry log s) (active : Active entry.drainHelper)
    (permitted : Meanwhile range entry.drainHelper.shutdownState s op) :
    ∃ left' s', s.step op = .ok s' ∧ Passing range left' entry (log ++ turn s op) s' := by
  cases op with
  | removeConnection c =>
      refine ⟨left, s.removeConnection c, rfl, ?_⟩
      rw [show turn s (.removeConnection c) = [] from rfl, List.append_nil]
      exact passing.remove c
  | runLoopCallback reaction =>
      obtain ⟨phase, behind⟩ := permitted
      cases passing.standing with
      | suspended resumable scheduled more =>
          have wf := resumable.toWellFormed
          have resumed : Resumable left entry log
              { s with drainHelper := { s.drainHelper with isLoopCallbackScheduled := false } } :=
            ⟨⟨⟨wf.nodup, wf.managed⟩, wf.drain, wf.idle⟩, resumable.phase, resumable.timer, resumable.notifies,
              resumable.ahead, resumable.full⟩
          have swept : Swept range left entry log
              { s with drainHelper := { s.drainHelper with isLoopCallbackScheduled := false } } :=
            ⟨passing.nodup, passing.swept, passing.called.quietly (.of_eq rfl rfl), passing.bounded⟩
          obtain ⟨left', s', done, passing⟩ := resumed.turn active swept behind
          refine ⟨left', s', ?_, passing⟩
          rw [ConnectionManager.step, DrainHelper.runLoopCallback, if_pos scheduled, done]
      | ended wf completed gone =>
          rw [completed] at phase
          exact absurd phase (completedState_ne active)
  | addConnection | onActivated | onDeactivated | initiateGracefulShutdown | drainConnections | dropConnections
  | dropAllConnections | dropIdleConnections | timeoutExpired | runPendingAdd => exact permitted.elim

theorem Passing.run {ops : List (Op Conn)} (passing : Passing range left entry log s) (active : Active entry.drainHelper)
    (along : Along ConnectionManager.step (Meanwhile range entry.drainHelper.shutdownState) s ops) :
    ∃ left' s', s.run ops = .ok s' ∧ Passing range left' entry (log ++ turns s ops) s' := by
  induction ops generalizing left log s with
  | nil => exact ⟨left, s, rfl, by rwa [turns, List.append_nil]⟩
  | cons op ops ih =>
      obtain ⟨left₁, s₁, taken, passing⟩ := passing.step active along.1
      obtain ⟨left', s', done, passing⟩ := ih passing (along.2 s₁ taken)
      refine ⟨left', s', run_cons.mpr ⟨s₁, taken, done⟩, ?_⟩
      rwa [turns, taken, ← List.append_assoc]

end turns

/-! ## The whole pass -/

theorem beginDrain_remaining {s : ConnectionManager Conn} (nodup : s.conns.Nodup) (idleGrace : Int) :
    remaining (DrainHelper.beginDrain idleGrace s) = drainRange (DrainHelper.beginDrain idleGrace s) := by
  rw [remaining_beginDrain nodup]
  unfold DrainHelper.beginDrain
  split <;> rfl

omit [DecidableEq Conn] in
theorem beginDrain_timer {idleGrace : Int} {s : ConnectionManager Conn}
    (notifying : (DrainHelper.beginDrain idleGrace s).drainHelper.shutdownState = .notifyPendingShutdown) :
    (DrainHelper.beginDrain idleGrace s).drainHelper.isScheduled = true := by
  by_cases grace : idleGrace > 0
  · rw [beginDrain_of_grace grace]
  · rw [beginDrain_of_not_grace grace] at notifying
    cases notifying

theorem Enters.begins {s entry : ConnectionManager Conn} {op : Op Conn} {reaction : Reaction Conn}
    (enters : Enters s op reaction entry) (wf : WellFormed s) (begins : op ≠ .runLoopCallback reaction) :
    remaining entry = drainRange entry ∧
      (entry.drainHelper.shutdownState = .notifyPendingShutdown → entry.drainHelper.isScheduled = true) := by
  cases enters with
  | initiate idle =>
      refine ⟨?_, beginDrain_timer⟩
      apply beginDrain_remaining
      exact wf.nodup
  | drain idle =>
      refine ⟨?_, beginDrain_timer⟩
      apply beginDrain_remaining
      exact wf.nodup
  | loop scheduled => exact absurd rfl begins
  | timeout scheduled complete => exact ⟨onward_drainStartIterator wf.nodup, fun notifying => by cases notifying⟩

end Wangle.Proof.Acceptor
