import Wangle.Channel.Pipeline

/-!
# The lists and the links of a pipeline

An operation adds one context, or takes some contexts out of one pipeline, or links the contexts anew. After a
`finalize` that does not throw the links follow the lists, whatever they were before.
-/

namespace Wangle.Proof.Channel
open Wangle.Channel Wangle.Transition Wangle.Linked

variable {P H T : Type}

structure WellFormed (pipeline : Pipeline H T) : Prop where
  distinct : pipeline.ctxs.Nodup
  inbound : pipeline.inCtxs = pipeline.ctxs.filter Context.isInbound
  outbound : pipeline.outCtxs = pipeline.ctxs.filter Context.isOutbound

theorem addHelper_wellFormed {pipeline : Pipeline H T} (wellFormed : WellFormed pipeline) {c : Context H T}
    (fresh : c ∉ pipeline.ctxs) (front : Bool) : WellFormed (pipeline.addHelper c front) where
  distinct := by
    cases front with
    | true => exact List.nodup_cons.mpr ⟨fresh, wellFormed.distinct⟩
    | false =>
        apply List.nodup_append.mpr
        refine ⟨wellFormed.distinct, List.nodup_singleton c, fun a member b last => ?_⟩
        rw [List.mem_singleton.mp last]
        exact fun same => fresh (same ▸ member)
  inbound := by
    cases front <;> by_cases isInbound : c.isInbound <;>
      simp [Pipeline.addHelper, isInbound, wellFormed.inbound]
  outbound := by
    cases front <;> by_cases isOutbound : c.isOutbound <;>
      simp [Pipeline.addHelper, isOutbound, wellFormed.outbound]

/-- What an event does on its way along `l`: the pipeline throws if there is nothing or the first context is not
for its messages, and otherwise every context is visited. -/
def visited (what : String) (takes : Context H T → Bool) (l : List (Context H T)) :
    Except InvalidArgument (Option (List (Context H T))) :=
  if l.head?.any takes then .ok (some l) else .error ⟨what⟩

theorem fire_visited {next : Context H T → Option (Context H T)} {l : List (Context H T)} (chained : Chained next l)
    {fuel : Nat} (enough : l.length ≤ fuel) (what : String) (takes : Context H T → Bool) :
    Pipeline.fire what next fuel (l.head?.filter takes) = visited what takes l := by
  have followed := follow_chained chained enough
  unfold visited
  cases first : l.head? with
  | none => rfl
  | some c =>
      rw [first] at followed
      by_cases taken : takes c
      · rw [Option.filter_some, if_pos taken, Pipeline.fire, followed, Option.any_some, if_pos taken]
      · rw [Option.filter_some, if_neg taken, Option.any_some, if_neg taken]
        rfl

variable {s s' : Pipelines P H T}

structure Structured (s : Pipelines P H T) : Prop where
  numbered : s.added.map Context.id = List.range s.added.length
  member : ∀ p, (s.pipelines p).ctxs ⊆ s.added
  apart : ∀ p q c, c ∈ (s.pipelines p).ctxs → c ∈ (s.pipelines q).ctxs → p = q
  wellFormed : ∀ p, WellFormed (s.pipelines p)

theorem init_structured (r w : P → T) : Structured (.init r w : Pipelines P H T) where
  numbered := rfl
  member := by simp [Pipelines.init]
  apart := by simp [Pipelines.init]
  wellFormed := fun _ => ⟨List.nodup_nil, rfl, rfl⟩

theorem Structured.of_pipeline (structured : Structured s) {p : P} (added : s'.added = s.added)
    (others : ∀ q, q ≠ p → s'.pipelines q = s.pipelines q) (fewer : (s'.pipelines p).ctxs ⊆ (s.pipelines p).ctxs)
    (wellFormed : WellFormed (s'.pipelines p)) : Structured s' := by
  have fewer (q : P) : (s'.pipelines q).ctxs ⊆ (s.pipelines q).ctxs := by
    by_cases same : q = p
    · subst same
      exact fewer
    · rw [others q same]
      exact List.Subset.refl _
  refine ⟨?_, fun q c member => ?_, fun q q' c first second => ?_, fun q => ?_⟩
  · rw [added, structured.numbered]
  · rw [added]
    exact structured.member q (fewer q member)
  · exact structured.apart q q' c (fewer q first) (fewer q' second)
  · by_cases same : q = p
    · subst same
      exact wellFormed
    · rw [others q same]
      exact structured.wellFormed q

theorem Structured.not_added (structured : Structured s) (handler : H) (type : HandlerClass T) :
    (⟨s.added.length, handler, type⟩ : Context H T) ∉ s.added := by
  intro member
  have known := List.mem_map_of_mem (f := Context.id) member
  rw [structured.numbered, List.mem_range] at known
  exact Nat.lt_irrefl _ known

theorem Structured.fresh (structured : Structured s) (q : P) (handler : H) (type : HandlerClass T) :
    (⟨s.added.length, handler, type⟩ : Context H T) ∉ (s.pipelines q).ctxs :=
  fun member => structured.not_added handler type (structured.member q member)

theorem mem_add [DecidableEq P] {p q : P} {handler : H} {type : HandlerClass T} {front : Bool} {c : Context H T} :
    c ∈ ((s.add p handler type front).pipelines q).ctxs ↔
      c ∈ (s.pipelines q).ctxs ∨ q = p ∧ c = ⟨s.added.length, handler, type⟩ := by
  by_cases same : q = p
  · subst same
    cases front <;> simp [Pipelines.add, Pipelines.set, Pipeline.addHelper, or_comm]
  · simp [Pipelines.add, Pipelines.set, same]

theorem add_structured [DecidableEq P] (structured : Structured s) (p : P) (handler : H) (type : HandlerClass T)
    (front : Bool) : Structured (s.add p handler type front) := by
  refine ⟨?_, fun q c member => ?_, fun q q' c first second => ?_, fun q => ?_⟩
  · simp [Pipelines.add, structured.numbered, List.range_succ]
  · rcases mem_add.mp member with earlier | ⟨-, rfl⟩
    · exact List.mem_append_left _ (structured.member q earlier)
    · simp [Pipelines.add]
  · rcases mem_add.mp first with earlier | ⟨here, new⟩ <;> rcases mem_add.mp second with earlier' | ⟨here', new'⟩
    · exact structured.apart q q' c earlier earlier'
    · exact absurd (new' ▸ earlier) (structured.fresh q handler type)
    · exact absurd (new ▸ earlier') (structured.fresh q' handler type)
    · exact here.trans here'.symm
  · by_cases same : q = p
    · subst same
      simpa [Pipelines.add, Pipelines.set] using
        addHelper_wellFormed (structured.wellFormed q) (structured.fresh q handler type) front
    · simpa only [Pipelines.add, Pipelines.set, Function.update_of_ne same] using structured.wellFormed q

theorem Structured.added_nodup (structured : Structured s) : s.added.Nodup :=
  List.Nodup.of_map Context.id (structured.numbered ▸ List.nodup_range)

variable [DecidableEq H] [DecidableEq T]

theorem eraseChecked_filter {ctxs : List (Context H T)} (distinct : ctxs.Nodup) {c : Context H T} (member : c ∈ ctxs)
    (directed : Context H T → Bool) :
    Pipeline.eraseChecked directed c (ctxs.filter directed) = .ok ((ctxs.erase c).filter directed) := by
  rw [Pipeline.eraseChecked, distinct.erase_eq_filter, (distinct.filter directed).erase_eq_filter,
    List.filter_filter, List.filter_filter]
  split
  · rename_i isDirected
    rw [if_pos (List.mem_filter.mpr ⟨member, isDirected⟩)]
    simp only [Bool.and_comm]
  · rename_i other
    congr 1
    apply List.filter_congr
    intro d _
    by_cases same : d = c
    · simp [same, other]
    · simp [same]

theorem removeAt_eq {pipeline : Pipeline H T} (wellFormed : WellFormed pipeline) {c : Context H T}
    (member : c ∈ pipeline.ctxs) :
    pipeline.removeAt c = .ok { pipeline with
      inCtxs := (pipeline.ctxs.erase c).filter Context.isInbound
      outCtxs := (pipeline.ctxs.erase c).filter Context.isOutbound
      ctxs := pipeline.ctxs.erase c } := by
  rw [Pipeline.removeAt, wellFormed.inbound, wellFormed.outbound, eraseChecked_filter wellFormed.distinct member,
    eraseChecked_filter wellFormed.distinct member]
  rfl

variable {p : P}

structure Removed (p : P) (gone : List (Context H T)) (s s' : Pipelines P H T) : Prop where
  added : s'.added = s.added
  attachments : s'.attachments = gone.foldl .detachPipeline s.attachments
  others : ∀ q, q ≠ p → s'.pipelines q = s.pipelines q
  ctxs : (s'.pipelines p).ctxs = (s.pipelines p).ctxs.filter (· ∉ gone)
  wellFormed : WellFormed (s'.pipelines p)

theorem Removed.none (wellFormed : WellFormed (s.pipelines p)) : Removed p [] s s where
  added := rfl
  attachments := rfl
  others := fun _ _ => rfl
  ctxs := by simp
  wellFormed := wellFormed

theorem Removed.cons {c : Context H T} {gone : List (Context H T)} {mid : Pipelines P H T} (first : Removed p [c] s mid)
    (rest : Removed p gone mid s') : Removed p (c :: gone) s s' where
  added := rest.added.trans first.added
  attachments := by rw [rest.attachments, first.attachments, List.foldl_cons, List.foldl_cons, List.foldl_nil]
  others := fun q other => (rest.others q other).trans (first.others q other)
  ctxs := by
    rw [rest.ctxs, first.ctxs, List.filter_filter]
    apply List.filter_congr
    simp [Bool.and_comm]
  wellFormed := rest.wellFormed

variable [DecidableEq P]

theorem removeAt_removed (wellFormed : WellFormed (s.pipelines p)) {c : Context H T} (member : c ∈ (s.pipelines p).ctxs) :
    ∃ s', s.removeAt p c = .ok s' ∧ Removed p [c] s s' := by
  refine ⟨_, by rw [Pipelines.removeAt, removeAt_eq wellFormed member]; rfl, ?_⟩
  refine ⟨rfl, rfl, fun q other => Function.update_of_ne other .., ?_, ?_⟩
  · simp only [Pipelines.set, Function.update_self, wellFormed.distinct.erase_eq_filter]
    apply List.filter_congr
    intro d _
    rw [Bool.eq_iff_iff]
    simp
  · simp only [Pipelines.set, Function.update_self]
    exact ⟨wellFormed.distinct.erase c, rfl, rfl⟩

theorem removeLoop_removed (chosen : Context H T → Bool) {todo : List (Context H T)} (distinct : todo.Nodup)
    (removed : Bool) (wellFormed : WellFormed (s.pipelines p)) (within : todo ⊆ (s.pipelines p).ctxs) :
    ∃ result, s.removeLoop p chosen todo removed = .ok result ∧ Removed p (todo.filter chosen) s result.1 := by
  induction todo generalizing s removed with
  | nil => exact ⟨_, rfl, .none wellFormed⟩
  | cons c rest ih =>
      rw [List.nodup_cons] at distinct
      rw [List.cons_subset] at within
      rw [Pipelines.removeLoop]
      split
      · rename_i isChosen
        obtain ⟨mid, taken, first⟩ := removeAt_removed wellFormed within.1
        have within' : rest ⊆ (mid.pipelines p).ctxs := by
          intro d member
          rw [first.ctxs, List.mem_filter]
          have other : d ≠ c := fun same => distinct.1 (same ▸ member)
          exact ⟨within.2 member, by simpa using other⟩
        obtain ⟨result, done, more⟩ := ih distinct.2 true first.wellFormed within'
        refine ⟨result, by rw [taken]; exact done, ?_⟩
        rw [List.filter_cons_of_pos isChosen]
        exact first.cons more
      · rename_i notChosen
        rw [List.filter_cons_of_neg notChosen]
        exact ih distinct.2 removed wellFormed within.2

theorem removeHelper_removed (wellFormed : WellFormed (s.pipelines p)) (chosen : Context H T → Bool) :
    ∃ s', (s.removeHelper p chosen).map Prod.fst = .ok s' ∧ Removed p ((s.pipelines p).ctxs.filter chosen) s s' := by
  obtain ⟨result, done, removed⟩ :=
    removeLoop_removed chosen wellFormed.distinct false wellFormed (List.Subset.refl _)
  refine ⟨result.1, ?_, removed⟩
  rw [Pipelines.removeHelper, done]
  rfl

theorem removeEnd_removed (wellFormed : WellFormed (s.pipelines p)) {last : Option (Context H T)}
    (member : ∀ c ∈ last, c ∈ (s.pipelines p).ctxs) :
    ∃ s', (s.removeEnd p last).map Prod.fst = .ok s' ∧ Removed p last.toList s s' := by
  cases last with
  | none => exact ⟨s, rfl, .none wellFormed⟩
  | some c =>
      obtain ⟨s', taken, removed⟩ := removeAt_removed wellFormed (member c rfl)
      exact ⟨s', by rw [Pipelines.removeEnd, taken]; rfl, removed⟩

theorem destroy_removed (s : Pipelines P H T) (p : P) : Removed p (s.pipelines p).ctxs s (s.destroy p) where
  added := rfl
  attachments := rfl
  others := fun q other => Function.update_of_ne other ..
  ctxs := by simp [Pipelines.destroy, Pipelines.set]
  wellFormed := by
    simp only [Pipelines.destroy, Pipelines.set, Function.update_self]
    exact ⟨List.nodup_nil, rfl, rfl⟩

structure Relinked (p : P) (s s' : Pipelines P H T) : Prop where
  added : s'.added = s.added
  others : ∀ q, q ≠ p → s'.pipelines q = s.pipelines q
  ctxs : (s'.pipelines p).ctxs = (s.pipelines p).ctxs
  inCtxs : (s'.pipelines p).inCtxs = (s.pipelines p).inCtxs
  outCtxs : (s'.pipelines p).outCtxs = (s.pipelines p).outCtxs

theorem link_lists (pipeline : Pipeline H T) :
    pipeline.link.1.ctxs = pipeline.ctxs ∧ pipeline.link.1.inCtxs = pipeline.inCtxs ∧
      pipeline.link.1.outCtxs = pipeline.outCtxs := by
  unfold Pipeline.link
  split <;> rename_i linked <;> cases congrArg Prod.fst linked <;> exact ⟨rfl, rfl, rfl⟩

theorem finalize_relinked (s : Pipelines P H T) (p : P) : Relinked p s (s.finalize p).1 := by
  have lists := link_lists (s.pipelines p)
  unfold Pipelines.finalize
  split <;> rename_i pipeline linked <;> rw [linked] at lists
  all_goals
    refine ⟨rfl, fun q other => Function.update_of_ne other .., ?_, ?_, ?_⟩
    all_goals simp only [Pipelines.set, Function.update_self]
    exacts [lists.1, lists.2.1, lists.2.2]

theorem finalize_attachments (s : Pipelines P H T) (p : P) :
    (s.finalize p).1.attachments = s.attachments ∨
      (s.finalize p).1.attachments = (s.pipelines p).ctxs.reverse.foldl .attachPipeline s.attachments := by
  have lists := link_lists (s.pipelines p)
  unfold Pipelines.finalize
  split <;> rename_i pipeline linked <;> rw [linked] at lists
  · exact .inl rfl
  · right
    rw [← lists.1]

theorem linkIn_fires {pipeline : Pipeline H T} (wellFormed : WellFormed pipeline) (fit : pipeline.linkIn.2 = none)
    {fuel : Nat} (enough : pipeline.ctxs.length ≤ fuel) (event : InboundEvent) :
    pipeline.linkIn.1.fireIn event fuel =
      visited event.what (·.type.rin = pipeline.r) (pipeline.ctxs.filter Context.isInbound) := by
  have distinct := wellFormed.distinct.filter Context.isInbound
  rw [← wellFormed.inbound] at distinct ⊢
  refine fire_visited (relink_chained distinct (Option.map_eq_none_iff.mp fit)) ?_ ..
  rw [wellFormed.inbound]
  exact Nat.le_trans (List.length_filter_le ..) enough

theorem linkOut_fires {pipeline : Pipeline H T} (wellFormed : WellFormed pipeline) (fit : pipeline.linkOut.2 = none)
    {fuel : Nat} (enough : pipeline.ctxs.length ≤ fuel) (event : OutboundEvent) :
    pipeline.linkOut.1.fireOut event fuel =
      visited event.what (·.type.win = pipeline.w) (pipeline.ctxs.filter Context.isOutbound).reverse := by
  have distinct := wellFormed.distinct.filter Context.isOutbound
  rw [← wellFormed.outbound] at distinct ⊢
  have chained := relink_chained (List.nodup_reverse.mpr distinct) (Option.map_eq_none_iff.mp fit)
  have outEnough : pipeline.outCtxs.reverse.length ≤ fuel := by
    rw [List.length_reverse, wellFormed.outbound]
    exact Nat.le_trans (List.length_filter_le ..) enough
  rw [← fire_visited chained outEnough, List.head?_reverse]
  rfl

theorem link_fires {pipeline : Pipeline H T} (wellFormed : WellFormed pipeline) (fit : pipeline.link.2 = none)
    {fuel : Nat} (enough : pipeline.ctxs.length ≤ fuel) :
    (∀ event, pipeline.link.1.fireIn event fuel =
        visited event.what (·.type.rin = pipeline.r) (pipeline.ctxs.filter Context.isInbound)) ∧
      ∀ event, pipeline.link.1.fireOut event fuel =
        visited event.what (·.type.win = pipeline.w) (pipeline.ctxs.filter Context.isOutbound).reverse := by
  unfold Pipeline.link at fit ⊢
  split at fit
  · cases fit
  · rename_i linked inFit
    have same : linked = pipeline.linkIn.1 := (congrArg Prod.fst inFit).symm
    rw [same] at fit ⊢
    have kept : WellFormed pipeline.linkIn.1 := ⟨wellFormed.distinct, wellFormed.inbound, wellFormed.outbound⟩
    exact ⟨linkIn_fires wellFormed (congrArg Prod.snd inFit) enough, linkOut_fires kept fit enough⟩

def detached (s : Pipelines P H T) : Pipelines.Op P H T → List (Context H T)
  | .remove p handler type => (s.pipelines p).ctxs.filter fun c => c.type = type ∧ c.handler = handler
  | .removeType p type => (s.pipelines p).ctxs.filter fun c => c.type = type
  | .removeFront p => (s.pipelines p).ctxs.head?.toList
  | .removeBack p => (s.pipelines p).ctxs.getLast?.toList
  | .destroy p => (s.pipelines p).ctxs
  | .addFront .. | .addBack .. | .finalize _ => []

inductive StepCase (s : Pipelines P H T) : List (Context H T) → Pipelines P H T → Prop
  | add (p : P) (handler : H) (type : HandlerClass T) (front : Bool) : StepCase s [] (s.add p handler type front)
  | remove (p : P) {gone : List (Context H T)} {s' : Pipelines P H T} (within : gone.Sublist (s.pipelines p).ctxs)
      (removed : Removed p gone s s') : StepCase s gone s'
  | finalize (p : P) : StepCase s [] (s.finalize p).1

theorem Structured.step_case (structured : Structured s) (op : Pipelines.Op P H T) :
    ∃ s', s.step op = .ok s' ∧ StepCase s (detached s op) s' := by
  cases op with
  | addFront p handler type => exact ⟨_, rfl, .add p handler type true⟩
  | addBack p handler type => exact ⟨_, rfl, .add p handler type false⟩
  | remove p handler type =>
      obtain ⟨s', taken, removed⟩ := removeHelper_removed (structured.wellFormed p) _
      exact ⟨s', taken, .remove p List.filter_sublist removed⟩
  | removeType p type =>
      obtain ⟨s', taken, removed⟩ := removeHelper_removed (structured.wellFormed p) _
      exact ⟨s', taken, .remove p List.filter_sublist removed⟩
  | removeFront p =>
      obtain ⟨s', taken, removed⟩ := removeEnd_removed (structured.wellFormed p) fun c first => List.mem_of_head? first
      refine ⟨s', taken, .remove p ?_ removed⟩
      cases first : (s.pipelines p).ctxs with
      | nil => simp [detached, first]
      | cons c rest => simp [detached, first]
  | removeBack p =>
      obtain ⟨s', taken, removed⟩ := removeEnd_removed (structured.wellFormed p) fun c last => List.mem_of_getLast? last
      refine ⟨s', taken, .remove p ?_ removed⟩
      cases last : (s.pipelines p).ctxs.getLast? with
      | none => simp [detached, last]
      | some c => simpa [detached, last] using List.mem_of_getLast? last
  | finalize p => exact ⟨_, rfl, .finalize p⟩
  | destroy p => exact ⟨_, rfl, .remove p (List.Sublist.refl _) (destroy_removed s p)⟩

theorem StepCase.structured {gone : List (Context H T)} (structured : Structured s) (happened : StepCase s gone s') :
    Structured s' := by
  cases happened with
  | add p handler type front => exact add_structured structured p handler type front
  | remove p within removed =>
      apply structured.of_pipeline removed.added removed.others _ removed.wellFormed
      rw [removed.ctxs]
      exact List.filter_sublist.subset
  | finalize p =>
      have relinked := finalize_relinked s p
      have before := structured.wellFormed p
      apply structured.of_pipeline relinked.added relinked.others
      · rw [relinked.ctxs]
        exact List.Subset.refl _
      · refine ⟨?_, ?_, ?_⟩
        · rw [relinked.ctxs]
          exact before.distinct
        · rw [relinked.inCtxs, relinked.ctxs, before.inbound]
        · rw [relinked.outCtxs, relinked.ctxs, before.outbound]

theorem step_structured (structured : Structured s) (op : Pipelines.Op P H T) :
    Yields (fun e => e = .checkFailed) Structured (s.step op) := by
  obtain ⟨s', taken, happened⟩ := structured.step_case op
  rw [taken]
  exact happened.structured structured

theorem Structured.finalize_fires (structured : Structured s) {p : P} (fit : s.finalize p = (s', none)) {fuel : Nat}
    (enough : (s.pipelines p).ctxs.length ≤ fuel) :
    (∀ event, (s'.pipelines p).fireIn event fuel =
        visited event.what (·.type.rin = (s.pipelines p).r) ((s.pipelines p).ctxs.filter Context.isInbound)) ∧
      ∀ event, (s'.pipelines p).fireOut event fuel =
        visited event.what (·.type.win = (s.pipelines p).w)
          ((s.pipelines p).ctxs.filter Context.isOutbound).reverse := by
  unfold Pipelines.finalize at fit
  split at fit
  · cases congrArg Prod.snd fit
  · rename_i pipeline linked
    cases congrArg Prod.fst fit
    have fires := link_fires (structured.wellFormed p) (congrArg Prod.snd linked) enough
    simpa only [linked, Pipelines.set, Function.update_self] using fires

/-- The lists are right after any operations. After a `finalize` that does not throw, an inbound event visits the
inbound handlers from front to back and an outbound event the outbound handlers from back to front, each once;
only if the first of them is not for the messages of the pipeline, the event is refused. -/
theorem run_structured (r w : P → T) (ops : List (Pipelines.Op P H T)) :
    Pipelines.run (.init r w) ops ≠ .error .checkFailed ∧
      ∀ s, Pipelines.run (.init r w) ops = .ok s → ∀ p,
        (s.pipelines p).ctxs.Nodup ∧
        (s.pipelines p).inCtxs = (s.pipelines p).ctxs.filter Context.isInbound ∧
        (s.pipelines p).outCtxs = (s.pipelines p).ctxs.filter Context.isOutbound ∧
        ∀ s', s.finalize p = (s', none) → ∀ fuel, (s.pipelines p).ctxs.length ≤ fuel →
          (∀ event, (s'.pipelines p).fireIn event fuel =
              visited event.what (·.type.rin = (s.pipelines p).r) ((s.pipelines p).ctxs.filter Context.isInbound)) ∧
            ∀ event, (s'.pipelines p).fireOut event fuel =
              visited event.what (·.type.win = (s.pipelines p).w)
                ((s.pipelines p).ctxs.filter Context.isOutbound).reverse := by
  have yields := yields_run_all (fun _ op structured => step_structured structured op)
    (init_structured (H := H) r w) ops
  refine ⟨yields.ne_error rfl, fun s done p => ?_⟩
  have structured : Structured s := yields.of_ok done
  have wellFormed := structured.wellFormed p
  exact ⟨wellFormed.distinct, wellFormed.inbound, wellFormed.outbound,
    fun s' fit fuel enough => structured.finalize_fires fit enough⟩

/-- A handler for messages of type 1 in a pipeline of type 0: `finalize` returns, and `read` throws although there
is an inbound handler. -/
theorem mismatched_handler_not_visited :
    ∃ s s' : Pipelines Unit Nat Nat,
      Pipelines.run (.init (fun _ => 0) fun _ => 0) [.addBack () 7 ⟨"StringHandler", .both, 1, 1, 1, 1⟩] = .ok s ∧
        s.finalize () = (s', none) ∧ (s'.pipelines ()).inCtxs.map Context.handler = [7] ∧
        (s'.pipelines ()).fireIn .read 1 = .error ⟨"read(): no inbound handler in Pipeline"⟩ :=
  ⟨_, _, rfl, rfl, rfl, rfl⟩

end Wangle.Proof.Channel
