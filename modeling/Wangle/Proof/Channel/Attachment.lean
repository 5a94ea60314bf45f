import Wangle.Proof.Channel.Structure
import Mathlib.Data.List.Perm.Basic

/-!
# The attachment of handlers

A handler has the number of its attached contexts, and the context itself as long as there is only one. What is
left when one of two contexts is detached cannot be told from that.
-/

namespace Wangle.Proof.Channel
open Wangle.Channel Wangle.Transition

variable {P H T : Type} [DecidableEq H] [DecidableEq T]

def attachedContexts (added : List (Context H T)) (a : Attachments H T) (h : H) : List (Context H T) :=
  added.filter fun c => a.attached c ∧ c.handler = h

def deliveries (a : Attachments H T) (c : Context H T) : List (Delivery H T) :=
  a.delivered.filter (·.ctx = c)

def only {α : Type} : List α → Option α
  | [a] => some a
  | _ => none

structure Accountable (s : Pipelines P H T) : Prop where
  counted : ∀ h, (s.attachments.handlers h).attachCount = (attachedContexts s.added s.attachments h).length
  context : ∀ h, (s.attachments.handlers h).getContext = .ok (only (attachedContexts s.added s.attachments h))
  paired : ∀ c, if s.attachments.attached c then deliveries s.attachments c = [.attach c]
    else deliveries s.attachments c = [] ∨ deliveries s.attachments c = [.attach c, .detach c]

/-- Only attached contexts are detached, and no handler of theirs is left with exactly one attached context. -/
def Separable (s : Pipelines P H T) (op : Pipelines.Op P H T) : Prop :=
  (∀ c ∈ detached s op, s.attachments.attached c) ∧
    ∀ c ∈ detached s op, (attachedContexts s.added s.attachments c.handler).length ≠
      ((detached s op).filter (·.handler = c.handler)).length + 1

structure Consistent (added : List (Context H T)) (present : Context H T → Prop) (a : Attachments H T) : Prop where
  counted : ∀ h, (a.handlers h).attachCount = (attachedContexts added a h).length
  cached : ∀ h c, attachedContexts added a h = [c] → (a.handlers h).ctx = some c
  placed : ∀ c, a.attached c → present c
  attached : ∀ c, a.attached c → deliveries a c = [.attach c]
  waiting : ∀ c, present c → ¬ a.attached c → deliveries a c = []
  apart : ∀ c, ¬ a.attached c → deliveries a c = [] ∨ deliveries a c = [.attach c, .detach c]
  unknown : ∀ c, c ∉ added → deliveries a c = []

variable {added : List (Context H T)} {present : Context H T → Prop} {a : Attachments H T}

theorem Consistent.getContext (consistent : Consistent added present a) (h : H) :
    (a.handlers h).getContext = .ok (only (attachedContexts added a h)) := by
  have counted := consistent.counted h
  unfold HandlerBase.getContext
  match contexts : attachedContexts added a h with
  | [] => simp [counted, contexts, only]
  | [c] => simp [counted, contexts, only, consistent.cached h c contexts]
  | _ :: _ :: _ => simp [counted, contexts, only]

section attach
variable {c : Context H T}

theorem attachPipeline_of_attached (already : a.attached c) : a.attachPipeline c = a := by
  rw [Attachments.attachPipeline, if_pos already]

theorem attachPipeline_attached (a : Attachments H T) (c : Context H T) :
    (a.attachPipeline c).attached = Function.update a.attached c true := by
  unfold Attachments.attachPipeline
  split
  · rename_i already
    rw [← already, Function.update_eq_self]
  · rfl

theorem attachPipeline_deliveries (detached : ¬ a.attached c) (d : Context H T) :
    deliveries (a.attachPipeline c) d = deliveries a d ++ if c = d then [.attach c] else [] := by
  rw [Attachments.attachPipeline, if_neg detached]
  by_cases same : c = d <;> simp [deliveries, Attachments.attachContext, Delivery.ctx, same]

theorem attachPipeline_handlers (detached : ¬ a.attached c) (h : H) :
    (a.attachPipeline c).handlers h =
      if h = c.handler then
        { attachCount := (a.handlers h).attachCount + 1
          ctx := if (a.handlers h).attachCount = 0 then some c else none }
      else a.handlers h := by
  rw [Attachments.attachPipeline, if_neg detached]
  by_cases same : h = c.handler
  · subst same
    simp [Attachments.attachContext]
  · simp [Attachments.attachContext, same]

theorem attachedContexts_attach (distinct : added.Nodup) (member : c ∈ added) (detached : ¬ a.attached c) :
    (attachedContexts added (a.attachPipeline c) c.handler).Perm (c :: attachedContexts added a c.handler) := by
  apply (List.perm_ext_iff_of_nodup (distinct.filter _) (List.nodup_cons.mpr ⟨?_, distinct.filter _⟩)).mpr
  · intro d
    by_cases same : d = c
    · simp [attachPipeline_attached, same, member]
    · simp [attachPipeline_attached, same]
  · simp [detached]

theorem attachedContexts_attach_of_ne {h : H} (other : h ≠ c.handler) :
    attachedContexts added (a.attachPipeline c) h = attachedContexts added a h := by
  apply List.filter_congr
  intro d _
  by_cases same : d = c
  · subst same
    simp [other.symm]
  · simp [attachPipeline_attached, same]

theorem attach_consistent (distinct : added.Nodup) (member : c ∈ added) (isPresent : present c)
    (consistent : Consistent added present a) (apart : ¬ a.attached c) :
    Consistent added present (a.attachPipeline c) := by
  have contexts := attachedContexts_attach distinct member apart
  have attached (d : Context H T) : (a.attachPipeline c).attached d ↔ d = c ∨ a.attached d := by
    by_cases same : d = c <;> simp [attachPipeline_attached, same]
  exact {
    counted := by
      intro h
      rw [attachPipeline_handlers apart]
      split
      · rename_i same
        subst same
        rw [contexts.length_eq, List.length_cons, consistent.counted]
      · rename_i other
        rw [attachedContexts_attach_of_ne other, consistent.counted]
    cached := by
      intro h d single
      rw [attachPipeline_handlers apart]
      split
      · rename_i same
        subst same
        rw [single] at contexts
        obtain ⟨rfl, none⟩ := List.cons.inj (List.perm_singleton.mp contexts.symm)
        simp [consistent.counted, none]
      · rename_i other
        rw [attachedContexts_attach_of_ne other] at single
        exact consistent.cached h d single
    placed := by
      intro d isAttached
      rcases (attached d).mp isAttached with rfl | before
      · exact isPresent
      · exact consistent.placed d before
    attached := by
      intro d isAttached
      rw [attachPipeline_deliveries apart]
      rcases (attached d).mp isAttached with rfl | before
      · rw [consistent.waiting d isPresent apart, if_pos rfl, List.nil_append]
      · have other : c ≠ d := fun same => apart (same ▸ before)
        rw [if_neg other, List.append_nil, consistent.attached d before]
    waiting := by
      intro d here still
      rw [attached, not_or] at still
      rw [attachPipeline_deliveries apart, if_neg (Ne.symm still.1), List.append_nil, consistent.waiting d here still.2]
    apart := by
      intro d still
      rw [attached, not_or] at still
      rw [attachPipeline_deliveries apart, if_neg (Ne.symm still.1), List.append_nil]
      exact consistent.apart d still.2
    unknown := by
      intro d absent
      have other : c ≠ d := fun same => absent (same ▸ member)
      rw [attachPipeline_deliveries apart, if_neg other, List.append_nil, consistent.unknown d absent] }

theorem attachPipeline_consistent (distinct : added.Nodup) (member : c ∈ added) (isPresent : present c)
    (consistent : Consistent added present a) : Consistent added present (a.attachPipeline c) := by
  by_cases already : a.attached c
  · rw [attachPipeline_of_attached already]
    exact consistent
  · exact attach_consistent distinct member isPresent consistent already

theorem attachAll_consistent (distinct : added.Nodup) {l : List (Context H T)} (member : l ⊆ added)
    (here : ∀ c ∈ l, present c) (consistent : Consistent added present a) :
    Consistent added present (l.foldl .attachPipeline a) := by
  induction l generalizing a with
  | nil => exact consistent
  | cons c rest ih =>
      rw [List.cons_subset] at member
      rw [List.forall_mem_cons] at here
      exact ih member.2 here.2 (attachPipeline_consistent distinct member.1 here.1 consistent)

end attach

section detach

theorem detachAll_attached (gone : List (Context H T)) (a : Attachments H T) (c : Context H T) :
    (gone.foldl .detachPipeline a).attached c ↔ a.attached c ∧ c ∉ gone := by
  induction gone generalizing a with
  | nil => simp
  | cons d rest ih =>
      rw [List.foldl_cons, ih]
      by_cases same : c = d <;> simp [Attachments.detachPipeline, Attachments.detachContext, same]

theorem detachAll_delivered (gone : List (Context H T)) (a : Attachments H T) :
    (gone.foldl .detachPipeline a).delivered = a.delivered ++ gone.map .detach := by
  induction gone generalizing a with
  | nil => simp
  | cons d rest ih =>
      rw [List.foldl_cons, ih]
      simp [Attachments.detachPipeline, Attachments.detachContext]

theorem detachAll_deliveries {gone : List (Context H T)} (distinct : gone.Nodup) (a : Attachments H T) (c : Context H T) :
    deliveries (gone.foldl .detachPipeline a) c = deliveries a c ++ if c ∈ gone then [.detach c] else [] := by
  rw [deliveries, detachAll_delivered, List.filter_append, List.filter_map]
  congr 1
  have chosen : gone.filter ((fun e : Delivery H T => decide (e.ctx = c)) ∘ .detach) = if c ∈ gone then [c] else [] := by
    have same : ((fun e : Delivery H T => decide (e.ctx = c)) ∘ .detach) = fun d => d == c := by
      funext d
      rfl
    rw [same, List.filter_beq]
    split
    · rename_i member
      rw [List.count_eq_one_of_mem distinct member]
      rfl
    · rename_i absent
      rw [List.count_eq_zero_of_not_mem absent]
      rfl
  rw [chosen]
  split <;> rfl

theorem detachAll_attachCount (gone : List (Context H T)) (a : Attachments H T) (h : H) :
    ((gone.foldl .detachPipeline a).handlers h).attachCount =
      (a.handlers h).attachCount - (gone.filter (·.handler = h)).length := by
  induction gone generalizing a with
  | nil => simp
  | cons d rest ih =>
      rw [List.foldl_cons, ih]
      by_cases same : d.handler = h
      · subst same
        simp only [Attachments.detachPipeline, Attachments.detachContext, Function.update_self, decide_true,
          List.filter_cons_of_pos, List.length_cons]
        split <;> omega
      · simp [Attachments.detachPipeline, Attachments.detachContext, same, Function.update_of_ne (Ne.symm same)]

theorem detachAll_ctx (gone : List (Context H T)) (a : Attachments H T) (h : H) :
    ((gone.foldl .detachPipeline a).handlers h).ctx =
      if ∃ c ∈ gone, c.handler = h then none else (a.handlers h).ctx := by
  induction gone generalizing a with
  | nil => simp
  | cons d rest ih =>
      rw [List.foldl_cons, ih]
      by_cases same : d.handler = h
      · subst same
        simp [Attachments.detachPipeline, Attachments.detachContext]
      · simp [Attachments.detachPipeline, Attachments.detachContext, same, Function.update_of_ne (Ne.symm same)]

theorem attachedContexts_split (distinct : added.Nodup) {gone : List (Context H T)} (goneDistinct : gone.Nodup)
    (member : gone ⊆ added) (attached : ∀ c ∈ gone, a.attached c) (h : H) :
    (attachedContexts added a h).length =
      (gone.filter (·.handler = h)).length + (attachedContexts added (gone.foldl .detachPipeline a) h).length := by
  rw [← List.length_append]
  apply List.Perm.length_eq
  apply (List.perm_ext_iff_of_nodup (distinct.filter _) ?_).mpr
  · intro c
    have after := detachAll_attached gone a c
    by_cases isGone : c ∈ gone
    · simp [attachedContexts, after, isGone, member isGone, attached c isGone]
    · simp [attachedContexts, after, isGone]
  · apply List.Nodup.append (goneDistinct.filter _) (distinct.filter _)
    intro c first second
    simp [detachAll_attached, (List.mem_filter.mp first).1] at second

theorem detachAll_consistent (distinct : added.Nodup) {gone : List (Context H T)} (goneDistinct : gone.Nodup)
    (member : gone ⊆ added) (attached : ∀ c ∈ gone, a.attached c)
    (apart : ∀ c ∈ gone, (attachedContexts added a c.handler).length ≠
      (gone.filter (·.handler = c.handler)).length + 1)
    (consistent : Consistent added present a) :
    Consistent added (fun c => present c ∧ c ∉ gone) (gone.foldl .detachPipeline a) where
  counted := by
    intro h
    have split := attachedContexts_split distinct goneDistinct member attached h
    rw [detachAll_attachCount, consistent.counted, split, Nat.add_sub_cancel_left]
  cached := by
    intro h c single
    have count := attachedContexts_split distinct goneDistinct member attached h
    rw [single, List.length_singleton] at count
    have untouched : ¬ ∃ d ∈ gone, d.handler = h := by
      rintro ⟨d, isGone, rfl⟩
      exact apart d isGone count
    rw [detachAll_ctx, if_neg untouched]
    apply consistent.cached h c
    rw [← single]
    apply List.filter_congr
    intro d _
    have stays : d.handler = h → d ∉ gone := fun same isGone => untouched ⟨d, isGone, same⟩
    simp only [detachAll_attached, decide_eq_decide]
    constructor
    · exact fun before => ⟨⟨before.1, stays before.2⟩, before.2⟩
    · exact fun after => ⟨after.1.1, after.2⟩
  placed := by
    intro c isAttached
    obtain ⟨before, stays⟩ := (detachAll_attached gone a c).mp isAttached
    exact ⟨consistent.placed c before, stays⟩
  attached := by
    intro c isAttached
    obtain ⟨before, stays⟩ := (detachAll_attached gone a c).mp isAttached
    rw [detachAll_deliveries goneDistinct, if_neg stays, List.append_nil, consistent.attached c before]
  waiting := by
    intro c here detached
    rw [detachAll_attached, not_and_not_right] at detached
    have before : ¬ a.attached c := fun before => here.2 (detached before)
    rw [detachAll_deliveries goneDistinct, if_neg here.2, List.append_nil, consistent.waiting c here.1 before]
  apart := by
    intro c detached
    rw [detachAll_deliveries goneDistinct]
    by_cases isGone : c ∈ gone
    · rw [if_pos isGone, consistent.attached c (attached c isGone)]
      exact .inr rfl
    · rw [if_neg isGone, List.append_nil]
      exact consistent.apart c fun before => detached ((detachAll_attached gone a c).mpr ⟨before, isGone⟩)
  unknown := by
    intro c absent
    rw [detachAll_deliveries goneDistinct, if_neg (fun isGone => absent (member isGone)), List.append_nil,
      consistent.unknown c absent]

end detach

def Present (s : Pipelines P H T) (c : Context H T) : Prop := ∃ p, c ∈ (s.pipelines p).ctxs

structure Attachable (s : Pipelines P H T) : Prop where
  structured : Structured s
  consistent : Consistent s.added (Present s) s.attachments

theorem init_attachable (r w : P → T) : Attachable (.init r w : Pipelines P H T) where
  structured := init_structured r w
  consistent := by
    refine ⟨fun h => rfl, ?_, ?_, ?_, fun _ _ _ => rfl, fun _ _ => .inl rfl, fun _ _ => rfl⟩
    all_goals simp [Pipelines.init, attachedContexts]

variable {s s' : Pipelines P H T}

theorem Attachable.accountable (attachable : Attachable s) : Accountable s where
  counted := attachable.consistent.counted
  context := attachable.consistent.getContext
  paired := by
    intro c
    split
    · rename_i attached
      exact attachable.consistent.attached c attached
    · rename_i detached
      exact attachable.consistent.apart c detached

theorem Consistent.not_attached (consistent : Consistent s.added (Present s) s.attachments) (structured : Structured s)
    {c : Context H T} (absent : c ∉ s.added) : ¬ s.attachments.attached c := by
  intro attached
  obtain ⟨p, member⟩ := consistent.placed c attached
  exact absent (structured.member p member)

variable [DecidableEq P]

theorem add_attachable (attachable : Attachable s) (p : P) (handler : H) (type : HandlerClass T) (front : Bool) :
    Attachable (s.add p handler type front) where
  structured := add_structured attachable.structured p handler type front
  consistent := by
    have consistent := attachable.consistent
    have absent := attachable.structured.not_added handler type
    have apart := consistent.not_attached attachable.structured absent
    have contexts (h : H) : attachedContexts (s.add p handler type front).added (s.add p handler type front).attachments h =
        attachedContexts s.added s.attachments h := by
      have none : [(⟨s.added.length, handler, type⟩ : Context H T)].filter
          (fun c => s.attachments.attached c ∧ c.handler = h) = [] := by
        simp [apart]
      show (s.added ++ _).filter (fun c => s.attachments.attached c ∧ c.handler = h) = _
      rw [List.filter_append, none, List.append_nil]
      rfl
    refine ⟨fun h => ?_, fun h c single => ?_, fun c attached => ?_, consistent.attached, fun c here detached => ?_,
      consistent.apart, fun c unknown => consistent.unknown c ?_⟩
    · rw [contexts]
      exact consistent.counted h
    · rw [contexts] at single
      exact consistent.cached h c single
    · obtain ⟨q, member⟩ := consistent.placed c attached
      exact ⟨q, mem_add.mpr (.inl member)⟩
    · obtain ⟨q, member⟩ := here
      rcases mem_add.mp member with earlier | ⟨-, rfl⟩
      · exact consistent.waiting c ⟨q, earlier⟩ detached
      · exact consistent.unknown _ absent
    · exact fun known => unknown (List.mem_append_left _ known)

theorem Removed.present_eq {p : P} {gone : List (Context H T)} (structured : Structured s)
    (within : gone.Sublist (s.pipelines p).ctxs) (removed : Removed p gone s s') :
    Present s' = fun c => Present s c ∧ c ∉ gone := by
  funext c
  apply propext
  constructor
  · rintro ⟨q, member⟩
    by_cases same : q = p
    · subst same
      rw [removed.ctxs, List.mem_filter] at member
      exact ⟨⟨q, member.1⟩, by simpa using member.2⟩
    · rw [removed.others q same] at member
      exact ⟨⟨q, member⟩, fun isGone => same (structured.apart q p c member (within.subset isGone))⟩
  · rintro ⟨⟨q, member⟩, stays⟩
    refine ⟨q, ?_⟩
    by_cases same : q = p
    · subst same
      rw [removed.ctxs, List.mem_filter]
      exact ⟨member, by simpa using stays⟩
    · rw [removed.others q same]
      exact member

theorem finalize_present (s : Pipelines P H T) (p : P) : Present (s.finalize p).1 = Present s := by
  have relinked := finalize_relinked s p
  have ctxs (q : P) : ((s.finalize p).1.pipelines q).ctxs = (s.pipelines q).ctxs := by
    by_cases same : q = p
    · rw [same, relinked.ctxs]
    · rw [relinked.others q same]
  funext c
  simp only [Present, ctxs]

theorem finalize_attachable (attachable : Attachable s) (p : P) : Attachable (s.finalize p).1 where
  structured := (StepCase.finalize p).structured attachable.structured
  consistent := by
    rw [finalize_present, (finalize_relinked s p).added]
    rcases finalize_attachments s p with kept | attached
    · rw [kept]
      exact attachable.consistent
    · rw [attached]
      apply attachAll_consistent attachable.structured.added_nodup _ _ attachable.consistent
      · exact fun c member => attachable.structured.member p (List.mem_reverse.mp member)
      · exact fun c member => ⟨p, List.mem_reverse.mp member⟩

theorem step_attachable {op : Pipelines.Op P H T} (attachable : Attachable s) (separable : Separable s op)
    (taken : s.step op = .ok s') : Attachable s' := by
  obtain ⟨next, taken', happened⟩ := attachable.structured.step_case op
  cases taken.symm.trans taken'
  have structured := happened.structured attachable.structured
  unfold Separable at separable
  generalize detached s op = gone at happened separable
  cases happened with
  | add p handler type front => exact add_attachable attachable p handler type front
  | remove p within removed =>
      refine ⟨structured, ?_⟩
      rw [removed.present_eq attachable.structured within, removed.added, removed.attachments]
      have distinct := within.nodup (attachable.structured.wellFormed p).distinct
      have member := List.Subset.trans within.subset (attachable.structured.member p)
      exact detachAll_consistent attachable.structured.added_nodup distinct member separable.1 separable.2
        attachable.consistent
  | finalize p => exact finalize_attachable attachable p

theorem step_inseparable {op : Pipelines.Op P H T} (attachable : Attachable s) (inseparable : ¬ Separable s op) :
    ∃ s', s.step op = .ok s' ∧ ¬ Accountable s' := by
  obtain ⟨s', taken, happened⟩ := attachable.structured.step_case op
  refine ⟨s', taken, fun accountable => inseparable ?_⟩
  unfold Separable
  generalize detached s op = gone at happened
  cases happened with
  | add p handler type front => simp
  | finalize p => simp
  | remove p within removed =>
      have distinct := within.nodup (attachable.structured.wellFormed p).distinct
      have member := List.Subset.trans within.subset (attachable.structured.member p)
      have attached : ∀ c ∈ gone, s.attachments.attached c := by
        intro c isGone
        by_contra detached
        have paired := accountable.paired c
        have after : ¬ (gone.foldl .detachPipeline s.attachments).attached c :=
          fun attached => ((detachAll_attached gone s.attachments c).mp attached).2 isGone
        rw [removed.attachments, if_neg after, detachAll_deliveries distinct, if_pos isGone,
          attachable.consistent.waiting c ⟨p, within.subset isGone⟩ detached] at paired
        simp at paired
      refine ⟨attached, fun c isGone left => ?_⟩
      have split := attachedContexts_split attachable.structured.added_nodup distinct member attached c.handler
      have context := accountable.context c.handler
      have counted := accountable.counted c.handler
      rw [removed.attachments, removed.added] at context counted
      have single : (attachedContexts s.added (gone.foldl .detachPipeline s.attachments) c.handler).length = 1 := by
        omega
      have lost := detachAll_ctx gone s.attachments c.handler
      rw [if_pos ⟨c, isGone, rfl⟩] at lost
      simp [HandlerBase.getContext, counted, single, lost] at context

theorem accountable_iff (r w : P → T) (ops : List (Pipelines.Op P H T)) :
    (∀ front s, front <+: ops → Pipelines.run (.init r w) front = .ok s → Accountable s) ↔
      Along Pipelines.step Separable (.init r w : Pipelines P H T) ops := by
  apply always_iff_along (I := Attachable) _ _ (fun _ attachable => attachable.accountable) (init_attachable r w)
  · exact fun s op s' attachable separable taken => step_attachable attachable separable taken
  · exact fun s op attachable inseparable => step_inseparable attachable inseparable

/-- A handler in two pipelines: when the first is destroyed one context is still attached, but `getContext` aborts.
A handler that is removed before `finalize` is told to detach without having been attached. -/
theorem shared_handler_loses_context :
    (∃ s : Pipelines Bool Nat Nat,
        Pipelines.run (.init (fun _ => 0) fun _ => 0)
            [.addBack true 7 ⟨"IntHandler", .both, 0, 0, 0, 0⟩, .finalize true,
              .addBack false 7 ⟨"IntHandler", .both, 0, 0, 0, 0⟩, .finalize false, .destroy true] = .ok s ∧
          (attachedContexts s.added s.attachments 7).length = 1 ∧
          (s.attachments.handlers 7).getContext = .error .checkFailed) ∧
      ∃ s : Pipelines Bool Nat Nat,
        Pipelines.run (.init (fun _ => 0) fun _ => 0)
            [.addBack true 7 ⟨"IntHandler", .both, 0, 0, 0, 0⟩, .removeFront true] = .ok s ∧
          s.attachments.delivered = [.detach ⟨0, 7, ⟨"IntHandler", .both, 0, 0, 0, 0⟩⟩] ∧ ¬ Accountable s := by
  refine ⟨⟨_, rfl, rfl, rfl⟩, _, rfl, rfl, fun accountable => ?_⟩
  exact absurd (accountable.paired ⟨0, 7, ⟨"IntHandler", .both, 0, 0, 0, 0⟩⟩) (by decide)

end Wangle.Proof.Channel
