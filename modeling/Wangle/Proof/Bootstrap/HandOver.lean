import Wangle.Bootstrap.AcceptRoutingHandler
import Mathlib.Data.List.Induction

/-!
# Handing connections over to the workers

Each connection is seen on its own: its pipelines, its closures and the callbacks made for it. An operation
changes what is seen of one connection only, and the bytes of that connection go through the stages of its
`Progress` in whatever fragments they come.
-/

namespace Wangle.Proof.Bootstrap
open Wangle.Bootstrap AcceptRoutingHandler
open Wangle.Transition hiding run

variable {R σ : Type}

/-- The bytes of a connection, as far as they have been read, with the number of those that the routing
handler has consumed. -/
inductive Progress (R σ : Type)
  | waiting (handler : σ) (queue : List UInt8) (consumed : Nat)
  | routed (routingData : R) (remaining : List UInt8) (consumed : Nat)

def Progress.feed (routing : Routing R σ) : Progress R σ → List UInt8 → Progress R σ
  | .waiting handler queue consumed, bytes =>
      let parsed := routing.parseRoutingData handler (queue ++ bytes)
      match parsed.routingData with
      | none => .waiting parsed.handler parsed.queue (consumed + ((queue ++ bytes).length - parsed.queue.length))
      | some (routingData, bufQueue) =>
          .routed routingData bufQueue (consumed + ((queue ++ bytes).length - bufQueue.length))
  | .routed routingData remaining consumed, bytes => .routed routingData (remaining ++ bytes) consumed

def progress (routing : Routing R σ) (fragments : List (List UInt8)) : Progress R σ :=
  fragments.foldl (Progress.feed routing) (.waiting routing.newHandler [] 0)

def Progress.unconsumed : Progress R σ → List UInt8
  | .waiting _ queue _ => queue
  | .routed _ remaining _ => remaining

def Progress.consumed : Progress R σ → Nat
  | .waiting _ _ consumed => consumed
  | .routed _ _ consumed => consumed

structure Moves (routing : Routing R σ) : Prop where
  waits : ∀ handler queue, (routing.parseRoutingData handler queue).routingData = none →
    ∃ front, queue = front ++ (routing.parseRoutingData handler queue).queue
  moves : ∀ handler queue routingData bufQueue,
    (routing.parseRoutingData handler queue).routingData = some (routingData, bufQueue) →
    ∃ front, queue = front ++ bufQueue

def fragment (connId : Nat) : Op R → Option (List UInt8)
  | .readDataAvailable c bytes => if c = connId then some bytes else none
  | _ => none

def fragments (connId : Nat) (ops : List (Op R)) : List (List UInt8) := ops.filterMap (fragment connId)

/-! ## The bytes of one connection -/

theorem progress_concat (routing : Routing R σ) (past : List (List UInt8)) (bytes : List UInt8) :
    progress routing (past ++ [bytes]) = (progress routing past).feed routing bytes := by
  rw [progress, List.foldl_append]
  rfl

theorem drop_front {front rest stream : List UInt8} {consumed : Nat} (before : stream.drop consumed = front ++ rest)
    (enough : consumed ≤ stream.length) :
    stream.drop (consumed + ((front ++ rest).length - rest.length)) = rest ∧
      consumed + ((front ++ rest).length - rest.length) ≤ stream.length := by
  have length := congrArg List.length before
  rw [List.length_drop, List.length_append] at length
  rw [List.length_append, Nat.add_sub_cancel]
  constructor
  · rw [← List.drop_drop, before, List.drop_left]
  · omega

theorem Progress.feed_drop {routing : Routing R σ} (moves : Moves routing) {stream : List UInt8} {p : Progress R σ}
    (before : stream.drop p.consumed = p.unconsumed) (enough : p.consumed ≤ stream.length) (bytes : List UInt8) :
    (stream ++ bytes).drop (p.feed routing bytes).consumed = (p.feed routing bytes).unconsumed ∧
      (p.feed routing bytes).consumed ≤ (stream ++ bytes).length := by
  have more : p.consumed ≤ (stream ++ bytes).length := by
    rw [List.length_append]
    exact Nat.le_add_right_of_le enough
  have grown : (stream ++ bytes).drop p.consumed = p.unconsumed ++ bytes := by
    rw [List.drop_append_of_le_length enough, before]
  cases p with
  | routed routingData remaining consumed => exact ⟨grown, more⟩
  | waiting handler queue consumed =>
      rw [feed]
      cases result : (routing.parseRoutingData handler (queue ++ bytes)).routingData with
      | none =>
          obtain ⟨front, split⟩ := moves.waits handler (queue ++ bytes) result
          have dropped := drop_front (grown.trans split) more
          rwa [← split] at dropped
      | some found =>
          obtain ⟨routingData, bufQueue⟩ := found
          obtain ⟨front, split⟩ := moves.moves handler (queue ++ bytes) routingData bufQueue result
          have dropped := drop_front (grown.trans split) more
          rwa [← split] at dropped

theorem progress_drop {routing : Routing R σ} (moves : Moves routing) (fragments : List (List UInt8)) :
    fragments.flatten.drop (progress routing fragments).consumed = (progress routing fragments).unconsumed ∧
      (progress routing fragments).consumed ≤ fragments.flatten.length := by
  induction fragments using List.reverseRecOn with
  | nil => exact ⟨rfl, Nat.le_refl 0⟩
  | append_singleton past bytes ih =>
      rw [progress_concat, List.flatten_append, List.flatten_singleton]
      exact Progress.feed_drop moves ih.1 ih.2 bytes

/-! ## What is seen of one connection -/

def concerns (connId : Nat) : RoutingEvent → Bool
  | .accepted _ => false
  | .invalid c => c = connId
  | .onRoutingData c => c = connId
  | .onError c => c = connId

def outcome (connId : Nat) (trace : List RoutingEvent) : Option RoutingEvent := trace.find? (concerns connId)

structure View (R σ : Type) where
  pipeline : Option (RoutingPipeline σ)
  posted : List (Posted R)
  children : List (Child R)
  outcome : Option RoutingEvent
  accepted : Prop
  known : Prop

def view (connId : Nat) (s : AcceptRoutingHandler R σ) : View R σ where
  pipeline := s.routingPipelines connId
  posted := s.posted.filter (·.connId = connId)
  children := s.children.filter (·.connId = connId)
  outcome := outcome connId s.trace
  accepted := .accepted connId ∈ s.trace
  known := connId < s.nextConnId

inductive Stage (routing : Routing R σ) (connId : Nat) (pieces : List (List UInt8)) : View R σ → Prop
  | unknown (none : pieces = []) : Stage routing connId pieces ⟨.none, [], [], .none, False, False⟩
  | reading (handler : σ) (queue : List UInt8) (consumed : Nat)
      (waiting : progress routing pieces = .waiting handler queue consumed) :
      Stage routing connId pieces ⟨some ⟨handler, queue⟩, [], [], none, True, True⟩
  | posted (closure : Posted R) (consumed : Nat)
      (routed : progress routing pieces = .routed closure.routingData closure.bufQueue consumed) :
      Stage routing connId pieces ⟨none, [closure], [], some (.onRoutingData connId), True, True⟩
  | handed (child : Child R) (consumed : Nat)
      (routed : progress routing pieces = .routed child.routingData child.received consumed) :
      Stage routing connId pieces ⟨none, [], [child], some (.onRoutingData connId), True, True⟩
  | dropped (event : RoutingEvent) (accepted : Prop)
      (failed : event = .invalid connId ∧ ¬ accepted ∨ event = .onError connId) :
      Stage routing connId pieces ⟨none, [], [], some event, accepted, True⟩

section
variable {s : AcceptRoutingHandler R σ} {connId c : Nat}

theorem outcome_concat (connId : Nat) (trace : List RoutingEvent) (e : RoutingEvent) :
    outcome connId (trace ++ [e]) = (outcome connId trace).or (if concerns connId e then some e else none) := by
  rw [outcome, List.find?_append, outcome, List.find?_singleton]

theorem view_record {e : RoutingEvent} (other : concerns connId e = false) (old : e ≠ .accepted connId) :
    view connId (s.record e) = view connId s := by
  simp [view, record, outcome_concat, other, Ne.symm old]

theorem view_setPipeline (other : connId ≠ c) (pipeline : Option (RoutingPipeline σ)) :
    view connId (s.setPipeline c pipeline) = view connId s := by
  simp [view, setPipeline, other]

theorem filter_childRead (children : List (Child R)) (bytes : List UInt8) :
    (children.map (childRead c bytes)).filter (·.connId = connId) =
      (children.filter (·.connId = connId)).map (childRead c bytes) := by
  have same (child : Child R) : (childRead c bytes child).connId = child.connId := by
    unfold childRead
    split <;> rfl
  rw [List.filter_map]
  congr 2
  funext child
  simp [same]

theorem childRead_others (children : List (Child R)) (bytes : List UInt8) (other : connId ≠ c) :
    (children.filter (·.connId = connId)).map (childRead c bytes) = children.filter (·.connId = connId) := by
  rw [List.map_congr_left (g := id) fun child member => ?_, List.map_id]
  have own : child.connId = connId := by simpa using (List.mem_filter.mp member).2
  rw [childRead, if_neg fun same => other (own.symm.trans same), id]

end

/-! ## What a step can do -/

section
variable [DecidableEq R] {routing : Routing R σ} {s s' : AcceptRoutingHandler R σ} {op : Op R} {connId : Nat}

def routedTo (s : AcceptRoutingHandler R σ) (closure : Posted R) : AcceptRoutingHandler R σ :=
  { (s.record (.onRoutingData closure.connId)).setPipeline closure.connId none with
    posted := s.posted ++ [closure] }

omit [DecidableEq R] in
theorem routedTo_setPipeline (s : AcceptRoutingHandler R σ) (closure : Posted R) (pipeline : Option (RoutingPipeline σ)) :
    routedTo (s.setPipeline closure.connId pipeline) closure = routedTo s closure := by
  simp [routedTo, record, setPipeline]

omit [DecidableEq R] in
theorem onRoutingData_ok {c : Nat} {pipeline : RoutingPipeline σ} {routingData : R} {bufQueue : List UInt8}
    (reading : s.routingPipelines c = some pipeline)
    (done : s.onRoutingData routing c routingData bufQueue = .ok s') :
    ∃ worker, s.acceptors[routing.hash routingData % s.acceptors.length]? = some worker ∧
      s' = routedTo s ⟨c, worker, routingData, bufQueue⟩ := by
  have same : (s.record (.onRoutingData c)).routingPipelines c = some pipeline := reading
  simp only [onRoutingData, same] at done
  split at done
  · cases done
  · rename_i worker picked
    cases done
    exact ⟨worker, picked, rfl⟩

inductive Takes (routing : Routing R σ) (s : AcceptRoutingHandler R σ) : Op R → AcceptRoutingHandler R σ → Prop
  | read {workers : List Worker} {valid : Bool} : Takes routing s (.read workers valid) (s.read routing workers valid)
  | wait {c : Nat} {bytes : List UInt8} {pipeline : RoutingPipeline σ} {parsed : Parsed R σ}
      (reading : s.routingPipelines c = some pipeline)
      (parse : routing.parseRoutingData pipeline.handler (pipeline.bufQueue ++ bytes) = parsed)
      (unready : parsed.routingData = none) :
      Takes routing s (.readDataAvailable c bytes)
        (s.setPipeline c (some { handler := parsed.handler, bufQueue := parsed.queue }))
  | route {c : Nat} {bytes : List UInt8} {pipeline : RoutingPipeline σ} {parsed : Parsed R σ} {routingData : R}
      {bufQueue : List UInt8} {worker : Worker} (reading : s.routingPipelines c = some pipeline)
      (parse : routing.parseRoutingData pipeline.handler (pipeline.bufQueue ++ bytes) = parsed)
      (ready : parsed.routingData = some (routingData, bufQueue))
      (picked : s.acceptors[routing.hash routingData % s.acceptors.length]? = some worker) :
      Takes routing s (.readDataAvailable c bytes) (routedTo s ⟨c, worker, routingData, bufQueue⟩)
  | child {c : Nat} {bytes : List UInt8} (left : s.routingPipelines c = none)
      (member : s.children.any (·.connId = c) = true) :
      Takes routing s (.readDataAvailable c bytes) { s with children := s.children.map (childRead c bytes) }
  | fail {c : Nat} {pipeline : RoutingPipeline σ} (reading : s.routingPipelines c = some pipeline) :
      Takes routing s (.readFailed c) (s.onError c)
  | childFail {c : Nat} : Takes routing s (.readFailed c) s
  | late {c : Nat} {routingData : R} {bufQueue : List UInt8} (known : c < s.nextConnId)
      (left : s.routingPipelines c = none) :
      Takes routing s (.onRoutingData c routingData bufQueue) (s.record (.onRoutingData c))
  | error {c : Nat} (known : c < s.nextConnId) : Takes routing s (.onError c) (s.onError c)
  | runPosted {closure : Posted R} (member : closure ∈ s.posted) :
      Takes routing s (.runPosted closure)
        { s with
          posted := s.posted.erase closure
          children := s.children ++ [⟨closure.connId, closure.worker, closure.routingData, closure.bufQueue⟩] }

theorem takes (taken : s.step routing op = .ok s') : Takes routing s op s' := by
  cases op with
  | read workers valid =>
      cases taken
      exact .read
  | readDataAvailable c bytes =>
      simp only [step, readDataAvailable] at taken
      split at taken
      · rename_i pipeline reading
        split at taken
        · rename_i unready
          cases taken
          exact .wait reading rfl unready
        · rename_i routingData bufQueue ready
          obtain ⟨worker, picked, rfl⟩ := onRoutingData_ok (Function.update_self ..) taken
          rw [show routedTo (s.setPipeline c _) ⟨c, worker, routingData, bufQueue⟩ = _ from routedTo_setPipeline s _ _]
          exact .route reading rfl ready picked
      · rename_i left
        split at taken
        · rename_i member
          cases taken
          exact .child left member
        · cases taken
  | readFailed c =>
      simp only [step, readFailed] at taken
      split at taken
      · rename_i pipeline reading
        cases taken
        exact .fail reading
      · split at taken
        · cases taken
          exact .childFail
        · cases taken
  | onRoutingData c routingData bufQueue =>
      simp only [step] at taken
      split at taken
      · rename_i free
        have left : s.routingPipelines c = none := by simpa using free.2
        have unchanged : (s.record (.onRoutingData c)).routingPipelines c = none := left
        simp only [onRoutingData, unchanged] at taken
        cases taken
        exact .late free.1 left
      · cases taken
  | onError c =>
      simp only [step] at taken
      split at taken
      · rename_i known
        cases taken
        exact .error known
      · cases taken
  | runPosted closure =>
      simp only [step, runPosted] at taken
      split at taken
      · rename_i member
        cases taken
        exact .runPosted member
      · cases taken

/-! ## One connection -/

def subject (s : AcceptRoutingHandler R σ) : Op R → Nat
  | .read _ _ => s.nextConnId
  | .readDataAvailable c _ => c
  | .readFailed c => c
  | .onRoutingData c _ _ => c
  | .onError c => c
  | .runPosted closure => closure.connId

omit [DecidableEq R] in
theorem view_onError {c : Nat} (other : connId ≠ c) : view connId (s.onError c) = view connId s := by
  rw [onError, view_setPipeline other, view_record (by simpa [concerns] using Ne.symm other) (by simp)]

omit [DecidableEq R] in
theorem populateAcceptors_eq (workers : List Worker) (s : AcceptRoutingHandler R σ) :
    ∃ acceptors, s.populateAcceptors workers = { s with acceptors := acceptors } := by
  unfold populateAcceptors
  split
  · exact ⟨s.acceptors, rfl⟩
  · exact ⟨workers, rfl⟩

omit [DecidableEq R] in
theorem view_read_other {workers : List Worker} {valid : Bool} (other : connId ≠ s.nextConnId) :
    view connId (s.read routing workers valid) = view connId s := by
  obtain ⟨acceptors, populated⟩ := populateAcceptors_eq workers s
  have known : connId < s.nextConnId + 1 ↔ connId < s.nextConnId := by omega
  rw [AcceptRoutingHandler.read, populated]
  cases valid <;> simp [view, record, setPipeline, outcome_concat, concerns, other, Ne.symm other, known]

theorem Takes.view_other (takes : Takes routing s op s') (other : connId ≠ subject s op) :
    view connId s' = view connId s := by
  cases takes with
  | read => exact view_read_other other
  | wait reading parse unready => exact view_setPipeline other _
  | @route c bytes pipeline parsed routingData bufQueue worker reading parse ready picked =>
      have other : connId ≠ c := other
      simp [view, routedTo, record, setPipeline, outcome_concat, concerns, other, Ne.symm other]
  | @child c bytes left member =>
      have other : connId ≠ c := other
      simp only [view, filter_childRead, childRead_others _ _ other]
  | fail reading => exact view_onError other
  | childFail => rfl
  | @late c routingData bufQueue known left =>
      have other : connId ≠ c := other
      exact view_record (by simpa [concerns] using Ne.symm other) (by simp)
  | error known => exact view_onError other
  | @runPosted closure member =>
      have other : closure.connId ≠ connId := Ne.symm other
      have absent : closure ∉ s.posted.filter (·.connId = connId) := by simp [other]
      simp [view, ← List.erase_filter, List.erase_of_not_mem absent, other]

omit [DecidableEq R] in
theorem fragments_concat (connId : Nat) (past : List (Op R)) (op : Op R) :
    fragments connId (past ++ [op]) = fragments connId past ++ (fragment connId op).toList := by
  rw [fragments, List.filterMap_append, fragments]
  cases found : fragment connId op <;> simp [found]

omit [DecidableEq R] in
theorem fragments_of_none {past : List (Op R)} (silent : fragment connId op = none) :
    fragments connId (past ++ [op]) = fragments connId past := by
  rw [fragments_concat, silent, Option.toList_none, List.append_nil]

omit [DecidableEq R] in
theorem fragments_read (connId : Nat) (past : List (Op R)) (bytes : List UInt8) :
    fragments connId (past ++ [.readDataAvailable connId bytes]) = fragments connId past ++ [bytes] := by
  rw [fragments_concat, fragment, if_pos rfl, Option.toList_some]

omit [DecidableEq R] in
theorem fragment_of_ne (other : connId ≠ subject s op) : fragment connId op = none := by
  cases op with
  | readDataAvailable c bytes => exact if_neg (Ne.symm other)
  | read | readFailed | onRoutingData | onError | runPosted => rfl

omit [DecidableEq R] in
theorem view_read (workers : List Worker) (valid : Bool) :
    view s.nextConnId (s.read routing workers valid) =
      if valid then
        { view s.nextConnId s with pipeline := some { handler := routing.newHandler }, accepted := True, known := True }
      else
        { view s.nextConnId s with
          outcome := (view s.nextConnId s).outcome.or (some (.invalid s.nextConnId))
          known := True } := by
  obtain ⟨acceptors, populated⟩ := populateAcceptors_eq workers s
  rw [AcceptRoutingHandler.read, populated]
  cases valid <;> simp [view, record, setPipeline, outcome_concat, concerns]

omit [DecidableEq R] in
theorem view_setPipeline_self (pipeline : Option (RoutingPipeline σ)) :
    view connId (s.setPipeline connId pipeline) = { view connId s with pipeline := pipeline } := by
  simp [view, setPipeline]

omit [DecidableEq R] in
theorem view_onRoutingData :
    view connId (s.record (.onRoutingData connId)) =
      { view connId s with outcome := (view connId s).outcome.or (some (.onRoutingData connId)) } := by
  simp [view, record, outcome_concat, concerns]

omit [DecidableEq R] in
theorem view_onError_self :
    view connId (s.onError connId) =
      { view connId s with
        pipeline := none
        outcome := (view connId s).outcome.or (some (.onError connId)) } := by
  simp [view, onError, record, setPipeline, outcome_concat, concerns]

omit [DecidableEq R] in
theorem view_routedTo (closure : Posted R) :
    view closure.connId (routedTo s closure) =
      { view closure.connId s with
        pipeline := none
        posted := (view closure.connId s).posted ++ [closure]
        outcome := (view closure.connId s).outcome.or (some (.onRoutingData closure.connId)) } := by
  simp [view, routedTo, record, setPipeline, outcome_concat, concerns]

omit [DecidableEq R] in
theorem view_children_ne_nil (member : s.children.any (·.connId = connId) = true) : (view connId s).children ≠ [] := by
  simpa [view, List.filter_eq_nil_iff] using member

omit [DecidableEq R] in
theorem view_childRead (bytes : List UInt8) :
    view connId { s with children := s.children.map (childRead connId bytes) } =
      { view connId s with children := (view connId s).children.map (childRead connId bytes) } := by
  simp only [view, filter_childRead]

theorem view_runPosted (closure : Posted R) :
    view closure.connId
        { s with
          posted := s.posted.erase closure
          children := s.children ++ [⟨closure.connId, closure.worker, closure.routingData, closure.bufQueue⟩] } =
      { view closure.connId s with
        posted := (view closure.connId s).posted.erase closure
        children := (view closure.connId s).children ++
          [⟨closure.connId, closure.worker, closure.routingData, closure.bufQueue⟩] } := by
  simp [view, ← List.erase_filter]

section
variable {pieces : List (List UInt8)} {bytes : List UInt8} {pipeline : RoutingPipeline σ} {parsed : Parsed R σ}

omit [DecidableEq R] in
theorem Stage.read (stage : Stage routing s.nextConnId pieces (view s.nextConnId s)) (workers : List Worker) (valid : Bool) :
    Stage routing s.nextConnId pieces (view s.nextConnId (s.read routing workers valid)) := by
  have new : ¬ (view s.nextConnId s).known := Nat.lt_irrefl s.nextConnId
  rw [view_read]
  generalize view s.nextConnId s = v at stage new ⊢
  cases stage with
  | unknown none =>
      cases valid with
      | true => exact .reading _ _ 0 (by rw [none]; rfl)
      | false => exact .dropped _ _ (.inl ⟨rfl, not_false⟩)
  | reading | posted | handed | dropped => exact absurd trivial new

omit [DecidableEq R] in
theorem Stage.wait (stage : Stage routing connId pieces (view connId s))
    (reading : (view connId s).pipeline = some pipeline)
    (parse : routing.parseRoutingData pipeline.handler (pipeline.bufQueue ++ bytes) = parsed)
    (unready : parsed.routingData = none) :
    Stage routing connId (pieces ++ [bytes])
      (view connId (s.setPipeline connId (some { handler := parsed.handler, bufQueue := parsed.queue }))) := by
  rw [view_setPipeline_self]
  generalize view connId s = v at stage reading ⊢
  cases stage with
  | reading handler queue consumed waiting =>
      cases reading
      refine .reading _ _ (consumed + ((queue ++ bytes).length - parsed.queue.length)) ?_
      rw [progress_concat, waiting, Progress.feed, parse, unready]
  | unknown | posted | handed | dropped => cases reading

omit [DecidableEq R] in
theorem Stage.route (stage : Stage routing connId pieces (view connId s))
    (reading : (view connId s).pipeline = some pipeline)
    (parse : routing.parseRoutingData pipeline.handler (pipeline.bufQueue ++ bytes) = parsed) {routingData : R}
    {bufQueue : List UInt8} (ready : parsed.routingData = some (routingData, bufQueue)) (worker : Worker) :
    Stage routing connId (pieces ++ [bytes]) (view connId (routedTo s ⟨connId, worker, routingData, bufQueue⟩)) := by
  have routed := view_routedTo (s := s) ⟨connId, worker, routingData, bufQueue⟩
  rw [routed]
  generalize view connId s = v at stage reading ⊢
  cases stage with
  | reading handler queue consumed waiting =>
      cases reading
      refine .posted ⟨connId, worker, routingData, bufQueue⟩ (consumed + ((queue ++ bytes).length - bufQueue.length)) ?_
      rw [progress_concat, waiting, Progress.feed, parse, ready]
  | unknown | posted | handed | dropped => cases reading

omit [DecidableEq R] in
theorem Stage.childRead (stage : Stage routing connId pieces (view connId s)) (left : (view connId s).pipeline = none)
    (some_child : (view connId s).children ≠ []) :
    Stage routing connId (pieces ++ [bytes])
      (view connId { s with children := s.children.map (AcceptRoutingHandler.childRead connId bytes) }) := by
  have own (child : Child R) (member : child ∈ (view connId s).children) : child.connId = connId := by
    simpa using (List.mem_filter.mp member).2
  rw [view_childRead]
  generalize view connId s = v at stage left some_child own ⊢
  cases stage with
  | handed child consumed routed =>
      have same := own child (List.mem_singleton_self child)
      refine .handed (AcceptRoutingHandler.childRead connId bytes child) consumed ?_
      rw [progress_concat, routed, Progress.feed, AcceptRoutingHandler.childRead, if_pos same]
  | reading => cases left
  | unknown | posted | dropped => exact absurd rfl some_child

omit [DecidableEq R] in
theorem Stage.known (stage : Stage routing connId pieces (view connId s)) (reading : (view connId s).pipeline = some pipeline) :
    (view connId s).known := by
  generalize view connId s = v at stage reading ⊢
  cases stage with
  | reading => trivial
  | unknown | posted | handed | dropped => cases reading

omit [DecidableEq R] in
theorem Stage.onError (stage : Stage routing connId pieces (view connId s)) (known : (view connId s).known) :
    Stage routing connId pieces (view connId (s.onError connId)) := by
  rw [view_onError_self]
  generalize view connId s = v at stage known ⊢
  cases stage with
  | unknown none => exact known.elim
  | reading handler queue consumed waiting => exact .dropped _ _ (.inr rfl)
  | posted closure consumed routed => exact .posted closure consumed routed
  | handed child consumed routed => exact .handed child consumed routed
  | dropped event accepted failed => exact .dropped event accepted failed

omit [DecidableEq R] in
theorem Stage.late (stage : Stage routing connId pieces (view connId s)) (known : (view connId s).known)
    (left : (view connId s).pipeline = none) :
    Stage routing connId pieces (view connId (s.record (.onRoutingData connId))) := by
  rw [view_onRoutingData]
  generalize view connId s = v at stage left known ⊢
  cases stage with
  | unknown none => exact known.elim
  | reading => cases left
  | posted closure consumed routed => exact .posted closure consumed routed
  | handed child consumed routed => exact .handed child consumed routed
  | dropped event accepted failed => exact .dropped event accepted failed

theorem Stage.runPosted {closure : Posted R} (stage : Stage routing closure.connId pieces (view closure.connId s))
    (member : closure ∈ (view closure.connId s).posted) :
    Stage routing closure.connId pieces (view closure.connId
      { s with
        posted := s.posted.erase closure
        children := s.children ++ [⟨closure.connId, closure.worker, closure.routingData, closure.bufQueue⟩] }) := by
  rw [view_runPosted]
  generalize view closure.connId s = v at stage member ⊢
  cases stage with
  | posted only consumed routed =>
      obtain rfl := List.mem_singleton.mp member
      rw [List.erase_cons_head]
      exact .handed _ consumed routed
  | unknown | reading | handed | dropped => cases member

end

theorem Takes.stage {past : List (Op R)} (takes : Takes routing s op s')
    (stage : Stage routing connId (fragments connId past) (view connId s)) (own : connId = subject s op) :
    Stage routing connId (fragments connId (past ++ [op])) (view connId s') := by
  subst own
  cases takes with
  | @read workers valid =>
      rw [fragments_of_none rfl]
      exact stage.read workers valid
  | @wait c bytes pipeline parsed reading parse unready =>
      rw [subject, fragments_read]
      exact stage.wait reading parse unready
  | @route c bytes pipeline parsed routingData bufQueue worker reading parse ready picked =>
      rw [subject, fragments_read]
      exact stage.route reading parse ready worker
  | @child c bytes left member =>
      rw [subject, fragments_read]
      exact stage.childRead left (view_children_ne_nil member)
  | @fail c pipeline reading =>
      rw [fragments_of_none rfl]
      exact stage.onError (stage.known reading)
  | childFail =>
      rw [fragments_of_none rfl]
      exact stage
  | late known left =>
      rw [fragments_of_none rfl]
      exact stage.late known left
  | error known =>
      rw [fragments_of_none rfl]
      exact stage.onError known
  | @runPosted closure member =>
      rw [fragments_of_none rfl]
      refine stage.runPosted ?_
      simpa [view, subject] using member

theorem run_stage {ops : List (Op R)} (done : run routing {} ops = .ok s) (connId : Nat) :
    Stage routing connId (fragments connId ops) (view connId s) := by
  have start (c : Nat) : Stage routing c (fragments c ([] : List (Op R))) (view c {}) := by
    have empty : view c ({} : AcceptRoutingHandler R σ) = ⟨none, [], [], none, False, False⟩ := by
      simp [view, outcome]
    rw [empty]
    exact .unknown rfl
  refine run_history (I := fun past s => ∀ c, Stage routing c (fragments c past) (view c s)) ?_ start
    (along_true _ ops) done connId
  intro past s op s' stages _ taken c
  have takes := takes taken
  by_cases own : c = subject s op
  · exact takes.stage (stages c) own
  · rw [takes.view_other own, fragments_of_none (fragment_of_ne own)]
    exact stages c

/-! ## Picking a worker -/

def Staffed : Op R → Prop
  | .read workers _ => workers ≠ []
  | _ => True

instance : DecidablePred (Staffed (R := R)) := fun op => by
  cases op <;> unfold Staffed <;> infer_instance

def Populated (s : AcceptRoutingHandler R σ) : Prop := s.acceptors = [] → ∀ c, s.routingPipelines c = none

omit [DecidableEq R] in
theorem Populated.setPipeline_none (populated : Populated s) (c : Nat) : Populated (s.setPipeline c none) := by
  intro empty connId
  simp [setPipeline, populated empty, Function.update_apply]

omit [DecidableEq R] in
theorem Populated.setPipeline_some (populated : Populated s) {c : Nat} {pipeline : RoutingPipeline σ}
    (reading : s.routingPipelines c = some pipeline) (next : Option (RoutingPipeline σ)) :
    Populated (s.setPipeline c next) := by
  intro empty
  have none : s.routingPipelines c = none := populated empty c
  rw [reading] at none
  cases none

omit [DecidableEq R] in
theorem populateAcceptors_ne_nil {workers : List Worker} (staffed : workers ≠ []) :
    (s.populateAcceptors workers).acceptors ≠ [] := by
  unfold populateAcceptors
  split
  · assumption
  · exact staffed

omit [DecidableEq R] in
theorem read_populated {workers : List Worker} (valid : Bool) (staffed : workers ≠ []) :
    Populated (s.read routing workers valid) := by
  have same : (s.read routing workers valid).acceptors = (s.populateAcceptors workers).acceptors := by
    unfold AcceptRoutingHandler.read
    cases valid <;> rfl
  intro empty
  exact absurd (same.symm.trans empty) (populateAcceptors_ne_nil staffed)

theorem Takes.populated (takes : Takes routing s op s') (staffed : Staffed op) (populated : Populated s) :
    Populated s' := by
  cases takes with
  | @read workers valid => exact read_populated valid staffed
  | wait reading parse unready => exact populated.setPipeline_some reading _
  | @route c bytes pipeline parsed routingData bufQueue worker reading parse ready picked =>
      exact populated.setPipeline_none c
  | child | childFail | late | runPosted => exact populated
  | @fail c pipeline reading => exact populated.setPipeline_none c
  | @error c known => exact populated.setPipeline_none c

omit [DecidableEq R] in
theorem onRoutingData_ne_error {c : Nat} {routingData : R} {bufQueue : List UInt8} (some_worker : s.acceptors ≠ [])
    (e : RoutingStuck) : s.onRoutingData routing c routingData bufQueue ≠ .error e := by
  have inside : routing.hash routingData % s.acceptors.length < s.acceptors.length :=
    Nat.mod_lt _ (List.length_pos_iff.mpr some_worker)
  simp only [onRoutingData]
  split
  · exact nofun
  · split
    · rename_i outside
      have outside : s.acceptors[routing.hash routingData % s.acceptors.length]? = none := outside
      exact absurd (List.getElem?_eq_none_iff.mp outside) (Nat.not_le.mpr inside)
    · exact nofun

theorem step_ne_undefined (populated : Populated s) : s.step routing op ≠ .error .undefined := by
  cases op with
  | read workers valid => exact nofun
  | readDataAvailable c bytes =>
      simp only [step, readDataAvailable]
      split
      · rename_i pipeline reading
        have some_worker : s.acceptors ≠ [] := by
          intro empty
          rw [populated empty c] at reading
          cases reading
        split
        · exact nofun
        · exact @onRoutingData_ne_error _ _ _ (s.setPipeline c _) _ _ _ some_worker _
      · split <;> exact nofun
  | readFailed c =>
      simp only [step, readFailed]
      split
      · exact nofun
      · split <;> exact nofun
  | onRoutingData c routingData bufQueue =>
      simp only [step]
      split
      · rename_i free
        have left : (s.record (.onRoutingData c)).routingPipelines c = none := Option.isNone_iff_eq_none.mp free.2
        simp only [onRoutingData, left]
        exact nofun
      · exact nofun
  | onError c =>
      simp only [step]
      split <;> exact nofun
  | runPosted closure =>
      simp only [step, runPosted]
      split <;> exact nofun

theorem run_ne_undefined {ops : List (Op R)} (staffed : ∀ op ∈ ops, Staffed op) :
    run routing ({} : AcceptRoutingHandler R σ) ops ≠ .error .undefined := by
  have along : Along (step routing) (fun _ op => True ∧ Staffed op) {} ops := along_and (along_true _ ops) staffed
  refine run_ne_error (I := Populated) ?_ ?_ (fun _ _ => rfl) along
  · intro s op s' populated staffed taken
    exact (takes taken).populated staffed.2 populated
  · intro s op populated staffed
    exact step_ne_undefined populated

/-! ## Handing over -/

omit [DecidableEq R] in
theorem outcome_mem {e : RoutingEvent} (first : (view connId s).outcome = some e) : e ∈ s.trace :=
  List.mem_of_find?_eq_some first

omit [DecidableEq R] in
theorem not_mem_of_outcome_none {e : RoutingEvent} (none : (view connId s).outcome = none)
    (own : concerns connId e = true) : e ∉ s.trace := by
  intro member
  exact absurd own (List.find?_eq_none.mp none e member)

def handOvers (connId : Nat) (s : AcceptRoutingHandler R σ) : Nat :=
  (s.posted.filter (·.connId = connId)).length + (s.children.filter (·.connId = connId)).length

inductive Fate (connId : Nat) (s : AcceptRoutingHandler R σ) : Prop
  | pending (reading : (s.routingPipelines connId).isSome) (none : handOvers connId s = 0)
  | handedOver (left : s.routingPipelines connId = none) (once : handOvers connId s = 1)
      (first : outcome connId s.trace = some (.onRoutingData connId))
  | dropped (left : s.routingPipelines connId = none) (none : handOvers connId s = 0)
      (first : outcome connId s.trace = some (.invalid connId) ∨ outcome connId s.trace = some (.onError connId))

omit [DecidableEq R] in
theorem Stage.fate {pieces : List (List UInt8)} (stage : Stage routing connId pieces (view connId s))
    (known : connId < s.nextConnId) : Fate connId s := by
  have known : (view connId s).known := known
  generalize seen : view connId s = v at stage known
  have pipeline : s.routingPipelines connId = v.pipeline := congrArg View.pipeline seen
  have first : outcome connId s.trace = v.outcome := congrArg View.outcome seen
  have count : handOvers connId s = v.posted.length + v.children.length := by
    rw [← seen]
    rfl
  cases stage with
  | unknown => exact known.elim
  | reading => exact .pending (Option.isSome_iff_exists.mpr ⟨_, pipeline⟩) count
  | posted | handed => exact .handedOver pipeline count first
  | dropped event accepted failed =>
      rcases failed with ⟨rfl, _⟩ | rfl
      · exact .dropped pipeline count (.inl first)
      · exact .dropped pipeline count (.inr first)

omit [DecidableEq R] in
theorem Stage.routingPipelines {pieces : List (List UInt8)} (stage : Stage routing connId pieces (view connId s)) :
    (s.routingPipelines connId).isSome ↔
      .accepted connId ∈ s.trace ∧ .onRoutingData connId ∉ s.trace ∧ .onError connId ∉ s.trace := by
  generalize seen : view connId s = v at stage
  have pipeline : s.routingPipelines connId = v.pipeline := congrArg View.pipeline seen
  have first : (view connId s).outcome = v.outcome := congrArg View.outcome seen
  have accepted : (.accepted connId ∈ s.trace) = v.accepted := congrArg View.accepted seen
  rw [pipeline]
  cases stage with
  | unknown => simp [accepted]
  | reading =>
      have silent (e : RoutingEvent) := @not_mem_of_outcome_none _ _ s connId e first
      simp [accepted, silent, concerns]
  | posted | handed => simp [outcome_mem first]
  | dropped event accepted' failed =>
      rcases failed with ⟨rfl, refused⟩ | rfl
      · simp [accepted, refused]
      · simp [outcome_mem first]

/-- The bytes are those that follow what the routing handler has consumed, and the routing data is its own. -/
def Intact (routing : Routing R σ) (pieces : List (List UInt8)) (routingData : R) (bytes : List UInt8) : Prop :=
  ∃ consumed ≤ pieces.flatten.length,
    progress routing pieces = .routed routingData bytes consumed ∧ bytes = pieces.flatten.drop consumed

omit [DecidableEq R] in
theorem intact_of_routed (moves : Moves routing) {pieces : List (List UInt8)} {routingData : R} {bytes : List UInt8}
    {consumed : Nat} (routed : progress routing pieces = .routed routingData bytes consumed) :
    Intact routing pieces routingData bytes := by
  have dropped := progress_drop moves pieces
  rw [routed] at dropped
  exact ⟨consumed, dropped.2, routed, dropped.1.symm⟩

omit [DecidableEq R] in
theorem Stage.posted_intact (moves : Moves routing) {closure : Posted R} {pieces : List (List UInt8)}
    (stage : Stage routing closure.connId pieces (view closure.connId s)) (member : closure ∈ s.posted) :
    Intact routing pieces closure.routingData closure.bufQueue := by
  have member : closure ∈ (view closure.connId s).posted := by simpa [view] using member
  generalize view closure.connId s = v at stage member
  cases stage with
  | posted only consumed routed =>
      obtain rfl := List.mem_singleton.mp member
      exact intact_of_routed moves routed
  | unknown | reading | handed | dropped => cases member

omit [DecidableEq R] in
theorem Stage.child_intact (moves : Moves routing) {child : Child R} {pieces : List (List UInt8)}
    (stage : Stage routing child.connId pieces (view child.connId s)) (member : child ∈ s.children) :
    Intact routing pieces child.routingData child.received := by
  have member : child ∈ (view child.connId s).children := by simpa [view] using member
  generalize view child.connId s = v at stage member
  cases stage with
  | handed only consumed routed =>
      obtain rfl := List.mem_singleton.mp member
      exact intact_of_routed moves routed
  | unknown | reading | posted | dropped => cases member

theorem onRoutingData_late {c : Nat} (known : c < s.nextConnId) (left : s.routingPipelines c = none) (routingData : R)
    (bufQueue : List UInt8) :
    s.step routing (.onRoutingData c routingData bufQueue) = .ok (s.record (.onRoutingData c)) := by
  have unchanged : (s.record (.onRoutingData c)).routingPipelines c = none := left
  simp only [step, if_pos (And.intro known (Option.isNone_iff_eq_none.mpr left)), onRoutingData, unchanged]

theorem onError_late {c : Nat} (known : c < s.nextConnId) (left : s.routingPipelines c = none) :
    s.step routing (.onError c) = .ok (s.record (.onError c)) := by
  have unchanged : Function.update s.routingPipelines c none = s.routingPipelines := by
    rw [← left, Function.update_eq_self]
  simp only [step, if_pos known, onError, setPipeline, record, unchanged]

/-- What the handler owes to the connections, after the operations `ops`. -/
structure HandsOver (routing : Routing R σ) (ops : List (Op R)) (s : AcceptRoutingHandler R σ) : Prop where
  fate : ∀ c < s.nextConnId, Fate c s
  routingPipelines : ∀ c, (s.routingPipelines c).isSome ↔
    .accepted c ∈ s.trace ∧ .onRoutingData c ∉ s.trace ∧ .onError c ∉ s.trace
  -- the call itself is recorded, and `readException` of the accept pipeline with it
  late : ∀ c < s.nextConnId, s.routingPipelines c = none →
    (∀ routingData bufQueue,
      s.step routing (.onRoutingData c routingData bufQueue) = .ok (s.record (.onRoutingData c))) ∧
    s.step routing (.onError c) = .ok (s.record (.onError c))
  posted : Moves routing → ∀ closure ∈ s.posted,
    Intact routing (fragments closure.connId ops) closure.routingData closure.bufQueue
  received : Moves routing → ∀ child ∈ s.children,
    Intact routing (fragments child.connId ops) child.routingData child.received

theorem run_handsOver (routing : Routing R σ) (ops : List (Op R)) :
    ((∀ op ∈ ops, Staffed op) → run routing ({} : AcceptRoutingHandler R σ) ops ≠ .error .undefined) ∧
      ∀ s, run routing {} ops = .ok s → HandsOver routing ops s := by
  refine ⟨run_ne_undefined, fun s done => ?_⟩
  have stage := run_stage done
  exact {
    fate := fun c known => (stage c).fate known
    routingPipelines := fun c => (stage c).routingPipelines
    late := fun c known left => ⟨onRoutingData_late known left, onError_late known left⟩
    posted := fun moves closure member => (stage closure.connId).posted_intact moves member
    received := fun moves child member => (stage child.connId).child_intact moves member }

end

def secondByte : Routing UInt8 Unit where
  newHandler := ()
  parseRoutingData
    | _, _ :: key :: rest => ⟨(), [], some (key, rest)⟩
    | _, queue => ⟨(), queue, none⟩
  hash := UInt8.toNat

theorem secondByte_moves : Moves secondByte where
  waits handler queue unready := by
    rcases queue with _ | ⟨first, _ | ⟨key, rest⟩⟩
    · exact ⟨[], rfl⟩
    · exact ⟨[], rfl⟩
    · cases unready
  moves handler queue routingData bufQueue ready := by
    rcases queue with _ | ⟨first, _ | ⟨key, rest⟩⟩
    · cases ready
    · cases ready
    · cases ready
      exact ⟨[first, routingData], rfl⟩

def crossing : List (Op UInt8) :=
  [.read [⟨1, 10⟩, ⟨2, 20⟩] true, .readDataAvailable 0 [65], .read [⟨1, 10⟩] true, .readDataAvailable 1 [65],
    .readDataAvailable 0 [3, 70, 71], .readFailed 1, .onError 0, .onRoutingData 1 5 [], .runPosted ⟨0, ⟨2, 20⟩, 3, [70, 71]⟩,
    .readDataAvailable 0 [72]]

theorem crossing_handsOver :
    Moves secondByte ∧ (∀ op ∈ crossing, Staffed op) ∧ run secondByte {} crossing ≠ .error .undefined ∧
      ∃ s, run secondByte {} crossing = .ok s ∧ HandsOver secondByte crossing s ∧
        s.posted = [] ∧ s.children = [⟨0, ⟨2, 20⟩, 3, [70, 71, 72]⟩] := by
  have staffed : ∀ op ∈ crossing, Staffed op := by decide
  have handsOver := run_handsOver secondByte crossing
  have ends : Ends (fun s => s.posted = [] ∧ s.children = [⟨0, ⟨2, 20⟩, 3, [70, 71, 72]⟩])
      (run secondByte {} crossing) := by decide +kernel
  obtain ⟨s, done, result⟩ := ends.exists_ok
  exact ⟨secondByte_moves, staffed, handsOver.1 staffed, s, done, handsOver.2 s done, result⟩

end Wangle.Proof.Bootstrap
