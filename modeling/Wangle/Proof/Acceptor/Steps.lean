import Wangle.Proof.Acceptor.DrainTurn

/-!
# What a step of the manager can do
-/

namespace Wangle.Proof.Acceptor
open Wangle.Acceptor Wangle.Intrusive ConnectionManager

variable {Conn : Type} [DecidableEq Conn]

/-- The state in which an operation enters `DrainHelper::drainConnections`. -/
inductive Enters (s : ConnectionManager Conn) : Op Conn → Reaction Conn → ConnectionManager Conn → Prop
  | initiate {idleGrace : Int} {reaction : Reaction Conn} (idle : s.drainHelper.getShutdownState = .none) :
      Enters s (.initiateGracefulShutdown idleGrace reaction) reaction
        (DrainHelper.beginDrain idleGrace
          { s with drainHelper := { s.drainHelper with all := true, pct := id, isScheduled := false } })
  | drain {pct : Nat → Nat} {idleGrace : Int} {reaction : Reaction Conn}
      (idle : s.drainHelper.getShutdownState = .none) :
      Enters s (.drainConnections pct idleGrace reaction) reaction
        (DrainHelper.beginDrain idleGrace
          { s with drainHelper := { s.drainHelper with all := false, pct := pct } })
  | loop {reaction : Reaction Conn} (scheduled : s.drainHelper.isLoopCallbackScheduled = true) :
      Enters s (.runLoopCallback reaction) reaction
        { s with drainHelper := { s.drainHelper with isLoopCallbackScheduled := false } }
  | timeout {reaction : Reaction Conn} (scheduled : s.drainHelper.isScheduled = true)
      (complete : s.drainHelper.shutdownState = .notifyPendingShutdownComplete) :
      Enters s (.timeoutExpired reaction) reaction
        { s with
          drainIterator := DrainHelper.drainStartIterator s
          drainHelper := { s.drainHelper with isScheduled := false, shutdownState := .closeWhenIdle } }

def linkedAdd (s : ConnectionManager Conn) (c : Conn) : ConnectionManager Conn :=
  { s with pendingAdds := s.pendingAdds.erase c }

inductive StepCase (s : ConnectionManager Conn) : Op Conn → ConnectionManager Conn → Prop
  | turn {op : Op Conn} {reaction : Reaction Conn} {entry s' : ConnectionManager Conn}
      (enters : Enters s op reaction entry) (done : DrainHelper.drainConnections reaction entry = .ok s') :
      StepCase s op s'
  | initiateIgnored {idleGrace : Int} {reaction : Reaction Conn}
      (busy : s.drainHelper.getShutdownState ≠ .none) : StepCase s (.initiateGracefulShutdown idleGrace reaction) s
  | drainIgnored {pct : Nat → Nat} {idleGrace : Int} {reaction : Reaction Conn}
      (busy : s.drainHelper.getShutdownState ≠ .none) : StepCase s (.drainConnections pct idleGrace reaction) s
  | timeoutIgnored {reaction : Reaction Conn}
      (early : s.drainHelper.shutdownState ≠ .notifyPendingShutdownComplete) :
      StepCase s (.timeoutExpired reaction)
        { s with drainHelper := { s.drainHelper with isScheduled := false } }
  | add {c : Conn} {reaction : Reaction Conn} :
      StepCase s (.addConnection c reaction) (s.addConnection reaction c)
  | remove {c : Conn} : StepCase s (.removeConnection c) (s.removeConnection c)
  | activate {c : Conn} (member : c ∈ s.conns) :
      StepCase s (.onActivated c) <| record (.activated c)
        { s with
          idleIterator := if s.idleIterator = some c then next c s.conns else s.idleIterator
          conns := c :: s.conns.erase c }
  | deactivate {c : Conn} (member : c ∈ s.conns) :
      StepCase s (.onDeactivated c) <| record (.deactivated c)
        { s with
          conns := s.conns.erase c ++ [c]
          idleIterator := if s.idleIterator = none then some c else s.idleIterator
          drainIterator :=
            if s.drainIterator = some c then (next c s.conns).or (some c) else s.drainIterator }
  | pendingAdd {c : Conn} {reaction : Reaction Conn} (pending : c ∈ s.pendingAdds) (linked : c ∈ s.conns) :
      StepCase s (.runPendingAdd c reaction)
        ((linkedAdd s c).fireCloseWhenIdle reaction (!s.notifyPendingShutdown) c)
  | pendingAddUnlinked {c : Conn} {reaction : Reaction Conn} (pending : c ∈ s.pendingAdds)
      (unlinked : c ∉ s.conns) : StepCase s (.runPendingAdd c reaction) (linkedAdd s c)
  | dropConnections {pct : Nat → Nat} {reaction : Reaction Conn} :
      StepCase s (.dropConnections pct reaction) (s.dropConnections reaction pct)
  | dropAll {reaction : Reaction Conn} :
      StepCase s (.dropAllConnections reaction) (s.dropAllConnections reaction)
  | dropIdle {num : Nat} {idleTime : Conn → Int} {reaction : Reaction Conn} :
      StepCase s (.dropIdleConnections num idleTime reaction) (s.dropIdleConnections reaction idleTime num).2

theorem stepCase {s s' : ConnectionManager Conn} {op : Op Conn} (taken : s.step op = .ok s') :
    StepCase s op s' := by
  cases op with
  | addConnection c reaction =>
      cases taken
      exact .add
  | removeConnection c =>
      cases taken
      exact .remove
  | onActivated c =>
      simp only [step, onActivated] at taken
      split at taken
      · rename_i member
        cases taken
        exact .activate member
      · cases taken
  | onDeactivated c =>
      simp only [step, onDeactivated] at taken
      split at taken
      · rename_i member
        have last : (s.conns.erase c ++ [c]).getLast? = some c := by simp
        have moved : (if s.drainIterator = some c ∧
              (if s.drainIterator = some c then next c s.conns else s.drainIterator) = none then some c
            else if s.drainIterator = some c then next c s.conns else s.drainIterator) =
            if s.drainIterator = some c then (next c s.conns).or (some c) else s.drainIterator := by
          by_cases stands : s.drainIterator = some c
          · cases next c s.conns <;> simp [stands]
          · simp [stands]
        rw [last, moved] at taken
        cases taken
        exact .deactivate member
      · cases taken
  | initiateGracefulShutdown idleGrace reaction =>
      simp only [step, initiateGracefulShutdown] at taken
      split at taken
      · rename_i busy
        cases taken
        exact .initiateIgnored busy
      · rename_i idle
        exact .turn (.initiate (not_not.mp idle)) taken
  | drainConnections pct idleGrace reaction =>
      simp only [step, ConnectionManager.drainConnections] at taken
      split at taken
      · rename_i busy
        cases taken
        exact .drainIgnored busy
      · rename_i idle
        exact .turn (.drain (not_not.mp idle)) taken
  | dropConnections pct reaction =>
      cases taken
      exact .dropConnections
  | dropAllConnections reaction =>
      cases taken
      exact .dropAll
  | dropIdleConnections num idleTime reaction =>
      cases taken
      exact .dropIdle
  | runLoopCallback reaction =>
      simp only [step, DrainHelper.runLoopCallback] at taken
      split at taken
      · rename_i scheduled
        exact .turn (.loop scheduled) taken
      · cases taken
  | timeoutExpired reaction =>
      simp only [step, DrainHelper.timeoutExpired] at taken
      split at taken
      · rename_i scheduled
        unfold DrainHelper.idleGracefulTimeoutExpired at taken
        split at taken
        · rename_i complete
          exact .turn (.timeout scheduled complete) taken
        · rename_i early
          cases taken
          exact .timeoutIgnored early
      · cases taken
  | runPendingAdd c reaction =>
      simp only [step, runPendingAdd] at taken
      split at taken
      · rename_i pending
        split at taken
        · rename_i linked
          cases taken
          exact .pendingAdd pending linked
        · rename_i unlinked
          cases taken
          exact .pendingAddUnlinked pending unlinked
      · cases taken

theorem Enters.step {s entry : ConnectionManager Conn} {op : Op Conn} {reaction : Reaction Conn}
    (enters : Enters s op reaction entry) : s.step op = DrainHelper.drainConnections reaction entry := by
  cases enters with
  | initiate idle =>
      rw [ConnectionManager.step, initiateGracefulShutdown, if_neg (not_not.mpr idle)]
      rfl
  | drain idle =>
      rw [ConnectionManager.step, ConnectionManager.drainConnections, if_neg (not_not.mpr idle)]
      rfl
  | loop scheduled => rw [ConnectionManager.step, DrainHelper.runLoopCallback, if_pos scheduled]
  | timeout scheduled complete =>
      rw [ConnectionManager.step, DrainHelper.timeoutExpired, if_pos scheduled, DrainHelper.idleGracefulTimeoutExpired,
        if_pos (by exact complete)]
      rfl

/-! ## The range of a drain -/

omit [DecidableEq Conn] in
theorem beginDrain_of_grace {idleGrace : Int} (grace : idleGrace > 0) (s : ConnectionManager Conn) :
    DrainHelper.beginDrain idleGrace s =
      { s with
        drainIterator := DrainHelper.drainStartIterator s
        drainHelper := { s.drainHelper with shutdownState := .notifyPendingShutdown, isScheduled := true } } := by
  rw [DrainHelper.beginDrain, if_pos grace]
  rfl

omit [DecidableEq Conn] in
theorem beginDrain_of_not_grace {idleGrace : Int} (grace : ¬ idleGrace > 0) (s : ConnectionManager Conn) :
    DrainHelper.beginDrain idleGrace s =
      { s with
        notifyPendingShutdown := false
        drainIterator := DrainHelper.drainStartIterator s
        drainHelper := { s.drainHelper with shutdownState := .closeWhenIdle } } := by
  rw [DrainHelper.beginDrain, if_neg grace]
  rfl

def drainRange (s : ConnectionManager Conn) : List Conn :=
  if s.drainHelper.all then s.conns
  else s.conns.drop (s.conns.length - min s.conns.length (s.drainHelper.pct s.conns.length))

theorem onward_drainStartIterator {s : ConnectionManager Conn} (nodup : s.conns.Nodup) :
    onward (DrainHelper.drainStartIterator s) s.conns = drainRange s := by
  unfold DrainHelper.drainStartIterator drainRange
  split
  · exact (Divides.at_drop s.conns 0).onward_eq nodup
  · exact (Divides.at_drop s.conns _).onward_eq nodup

theorem remaining_beginDrain {s : ConnectionManager Conn} (nodup : s.conns.Nodup) (idleGrace : Int) :
    remaining (DrainHelper.beginDrain idleGrace s) = drainRange s := by
  rw [← onward_drainStartIterator nodup]
  unfold remaining DrainHelper.beginDrain
  split <;> rfl

omit [DecidableEq Conn] in
theorem beginDrain_isLoopCallbackScheduled (idleGrace : Int) (s : ConnectionManager Conn) :
    (DrainHelper.beginDrain idleGrace s).drainHelper.isLoopCallbackScheduled =
      s.drainHelper.isLoopCallbackScheduled := by
  unfold DrainHelper.beginDrain
  split <;> rfl

/-! ## Every step keeps the list in order -/

omit [DecidableEq Conn] in
theorem drainStartIterator_divides (s : ConnectionManager Conn) :
    ∃ n, DrainHelper.drainStartIterator s = (s.conns.drop n).head? := by
  unfold DrainHelper.drainStartIterator
  split
  · exact ⟨0, rfl⟩
  · exact ⟨_, rfl⟩

omit [DecidableEq Conn] in
theorem drainStartIterator_mem {s : ConnectionManager Conn} :
    ∀ c, DrainHelper.drainStartIterator s = some c → c ∈ s.conns := by
  obtain ⟨n, start⟩ := drainStartIterator_divides s
  rw [start]
  exact (Divides.at_drop s.conns n).mem

omit [DecidableEq Conn] in
theorem WellFormed.of_eq {s s' : ConnectionManager Conn} (wf : WellFormed s) (conns : s'.conns = s.conns)
    (managed : s'.isManaged = s.isManaged) (drain : s'.drainIterator = s.drainIterator)
    (idle : s'.idleIterator = s.idleIterator) : WellFormed s' := by
  refine ⟨⟨?_, ?_⟩, ?_, ?_⟩
  · exact conns ▸ wf.nodup
  · exact conns ▸ managed ▸ wf.managed
  · exact conns ▸ drain ▸ wf.drain
  · exact conns ▸ idle ▸ wf.idle

omit [DecidableEq Conn] in
theorem beginDrain_wellFormed {s : ConnectionManager Conn} (wf : WellFormed s) (idleGrace : Int) :
    WellFormed (DrainHelper.beginDrain idleGrace s) := by
  unfold DrainHelper.beginDrain
  split <;> exact ⟨⟨wf.nodup, wf.managed⟩, drainStartIterator_mem (s := s), wf.idle⟩

omit [DecidableEq Conn] in
theorem Enters.wellFormed {s entry : ConnectionManager Conn} {op : Op Conn} {reaction : Reaction Conn}
    (enters : Enters s op reaction entry) (wf : WellFormed s) : WellFormed entry := by
  cases enters with
  | initiate idle =>
      apply beginDrain_wellFormed
      exact wf.of_eq rfl rfl rfl rfl
  | drain idle =>
      apply beginDrain_wellFormed
      exact wf.of_eq rfl rfl rfl rfl
  | loop scheduled => exact ⟨⟨wf.nodup, wf.managed⟩, wf.drain, wf.idle⟩
  | timeout scheduled complete => exact ⟨⟨wf.nodup, wf.managed⟩, drainStartIterator_mem, wf.idle⟩

omit [DecidableEq Conn] in
theorem Finished.wellFormed {rest before : List Conn} {m s' : ConnectionManager Conn}
    (finished : Finished rest m s') (wf : WellFormed m) (eq : m.conns = before ++ rest) : WellFormed s' := by
  cases finished with
  | more left => exact ⟨⟨wf.nodup, wf.managed⟩, (Divides.mk eq rfl).mem, wf.idle⟩
  | notified empty notifying waiting => exact ⟨⟨wf.nodup, wf.managed⟩, by simp, wf.idle⟩
  | expired empty notifying late => exact ⟨⟨wf.nodup, wf.managed⟩, drainStartIterator_mem (s := m), wf.idle⟩
  | closed empty closing => exact ⟨⟨wf.nodup, wf.managed⟩, by simp, wf.idle⟩

theorem drainConnections_wellFormed {reaction : Reaction Conn} {s s' : ConnectionManager Conn}
    (wf : WellFormed s) (done : DrainHelper.drainConnections reaction s = .ok s') : WellFormed s' := by
  obtain ⟨-, seen, rest, m, -, drained, finished⟩ := drainConnections_ok wf done
  obtain ⟨before, eq⟩ := drained.conns
  exact finished.wellFormed (drained.effects.wellFormed wf) eq

theorem insertConnection_eq (c : Conn) (s : ConnectionManager Conn) :
    ∃ calls, s.insertConnection c =
        { s with
          conns := c :: s.conns
          isManaged := Function.update s.isManaged c true
          trace := s.trace ++ .added c :: calls } ∧ ∀ e ∈ calls, e = .onConnectionAdded := by
  by_cases observed : s.hasCallback
  · exact ⟨[.onConnectionAdded], by simp [insertConnection, record, setManaged, observed], by simp⟩
  · exact ⟨[], by simp only [insertConnection, record, setManaged, observed]; rfl, by simp⟩

def inserted (c : Conn) (s : ConnectionManager Conn) : ConnectionManager Conn :=
  if s.isManaged c then s else s.insertConnection c

def greeted (reaction : Reaction Conn) (c : Conn) (s : ConnectionManager Conn) : ConnectionManager Conn :=
  if .notifyPendingShutdown ≤ (inserted c s).drainHelper.getShutdownState ∧ (inserted c s).notifyPendingShutdown then
    (inserted c s).fireNotifyPendingShutdown reaction c
  else inserted c s

theorem addConnection_eq (reaction : Reaction Conn) (c : Conn) (s : ConnectionManager Conn) :
    s.addConnection reaction c =
      if .closeWhenIdle ≤ (greeted reaction c s).drainHelper.getShutdownState then
        { greeted reaction c s with pendingAdds := (greeted reaction c s).pendingAdds ++ [c] }
      else greeted reaction c s := rfl

theorem greeted_effects (reaction : Reaction Conn) (c : Conn) (s : ConnectionManager Conn) :
    Effects (inserted c s) (greeted reaction c s) := by
  unfold greeted
  split
  · exact fireNotifyPendingShutdown_effects reaction c _
  · exact .refl

theorem inserted_wellFormed {s : ConnectionManager Conn} (wf : WellFormed s) (c : Conn) :
    WellFormed (inserted c s) := by
  unfold inserted
  split
  · exact wf
  · rename_i unknown
    obtain ⟨calls, equal, -⟩ := insertConnection_eq c s
    have absent : c ∉ s.conns := fun member => unknown ((wf.managed c).mpr member)
    rw [equal]
    refine ⟨⟨List.nodup_cons.mpr ⟨absent, wf.nodup⟩, fun x => ?_⟩, ?_, ?_⟩
    · by_cases same : x = c
      · simp [same]
      · simp [same, wf.managed]
    · exact fun x stands => List.mem_cons_of_mem _ (wf.drain x stands)
    · exact fun x stands => List.mem_cons_of_mem _ (wf.idle x stands)

theorem inserted_sameDrain (c : Conn) (s : ConnectionManager Conn) : SameDrain s (inserted c s) := by
  unfold inserted
  split
  · exact .refl s
  · obtain ⟨calls, equal, -⟩ := insertConnection_eq c s
    rw [equal]
    exact ⟨rfl, rfl, rfl, rfl, rfl⟩

theorem addConnection_drainHelper (reaction : Reaction Conn) (c : Conn) (s : ConnectionManager Conn) :
    (s.addConnection reaction c).drainHelper = s.drainHelper := by
  have greeting := (greeted_effects reaction c s).sameDrain.drainHelper
  have insertion := (inserted_sameDrain c s).drainHelper
  rw [addConnection_eq]
  split <;> exact greeting.trans insertion

theorem addConnection_wellFormed {s : ConnectionManager Conn} (wf : WellFormed s) (reaction : Reaction Conn)
    (c : Conn) : WellFormed (s.addConnection reaction c) := by
  have greeting := (greeted_effects reaction c s).wellFormed (inserted_wellFormed wf c)
  rw [addConnection_eq]
  split
  · exact ⟨⟨greeting.nodup, greeting.managed⟩, greeting.drain, greeting.idle⟩
  · exact greeting

theorem mem_push_front {s : ConnectionManager Conn} (wf : WellFormed s) {c : Conn} (member : c ∈ s.conns)
    (x : Conn) : x ∈ c :: s.conns.erase c ↔ x ∈ s.conns := by
  rw [List.mem_cons, wf.nodup.mem_erase_iff]
  by_cases same : x = c <;> simp [same, member]

theorem mem_push_back {s : ConnectionManager Conn} (wf : WellFormed s) {c : Conn} (member : c ∈ s.conns)
    (x : Conn) : x ∈ s.conns.erase c ++ [c] ↔ x ∈ s.conns := by
  rw [List.mem_append, List.mem_singleton, wf.nodup.mem_erase_iff]
  by_cases same : x = c <;> simp [same, member]

theorem popped_listed {s : ConnectionManager Conn} (listed : Listed s) {c : Conn} {conns : List Conn}
    (front : s.conns = c :: conns) :
    Listed (record (.removed c) (setManaged c false { s with conns := conns })) := by
  have nodup := listed.nodup
  rw [front] at nodup
  refine ⟨(List.nodup_cons.mp nodup).2, fun x => ?_⟩
  have managed := listed.managed x
  rw [front] at managed
  by_cases same : x = c
  · simpa [record, setManaged, same] using (List.nodup_cons.mp nodup).1
  · simpa [record, setManaged, same] using managed

theorem dropAllLoop_spec (reaction : Reaction Conn) {n : Nat} {s : ConnectionManager Conn} (listed : Listed s)
    (enough : s.conns.length ≤ n) :
    Listed (dropAllLoop reaction n s) ∧ (dropAllLoop reaction n s).conns = [] ∧
      SameDrain s (dropAllLoop reaction n s) := by
  induction n generalizing s with
  | zero => exact ⟨listed, List.eq_nil_of_length_eq_zero (Nat.le_zero.mp enough), .refl s⟩
  | succ n ih =>
      rw [dropAllLoop]
      cases front : s.conns with
      | nil => exact ⟨listed, front, .refl s⟩
      | cons c conns =>
          have popped := popped_listed listed front
          have effects := dropConnection_effects reaction c
            (record (.removed c) (setManaged c false { s with conns := conns }))
          have shorter := effects.conns_sublist.length_le
          have length : conns.length ≤ n := by simpa [front] using enough
          obtain ⟨listed', empty, same⟩ := ih (effects.listed popped) (shorter.trans length)
          have before : SameDrain s (record (.removed c) (setManaged c false { s with conns := conns })) :=
            ⟨rfl, rfl, rfl, rfl, rfl⟩
          exact ⟨listed', empty, (before.trans effects.sameDrain).trans same⟩

theorem dropAllConnections_drainHelper {s : ConnectionManager Conn} (wf : WellFormed s) (reaction : Reaction Conn) :
    (s.dropAllConnections reaction).drainHelper =
      { s.drainHelper with
        shutdownState := .closeWhenIdleComplete, isScheduled := false, isLoopCallbackScheduled := false } := by
  obtain ⟨-, -, same⟩ := dropAllLoop_spec reaction (s := s.stopDrainingForShutdown)
    ⟨wf.nodup, wf.managed⟩ (Nat.le_refl _)
  unfold dropAllConnections
  simp only
  split <;> simp only [record, same.drainHelper] <;> rfl

theorem dropAllConnections_wellFormed {s : ConnectionManager Conn} (wf : WellFormed s) (reaction : Reaction Conn) :
    WellFormed (s.dropAllConnections reaction) := by
  obtain ⟨listed, -, -⟩ := dropAllLoop_spec reaction (s := s.stopDrainingForShutdown)
    ⟨wf.nodup, wf.managed⟩ (Nat.le_refl _)
  unfold dropAllConnections
  simp only
  split
  · exact ⟨⟨listed.nodup, listed.managed⟩, by simp [record], by simp [record]⟩
  · exact ⟨⟨listed.nodup, listed.managed⟩, by simp, by simp⟩

theorem step_wellFormed {s s' : ConnectionManager Conn} {op : Op Conn} (wf : WellFormed s)
    (taken : s.step op = .ok s') : WellFormed s' := by
  cases stepCase taken with
  | turn enters done => exact drainConnections_wellFormed (enters.wellFormed wf) done
  | initiateIgnored busy => exact wf
  | drainIgnored busy => exact wf
  | timeoutIgnored early => exact wf.of_eq rfl rfl rfl rfl
  | add => exact addConnection_wellFormed wf _ _
  | remove => exact wf.removeConnection _
  | @activate c member =>
      have front := mem_push_front wf member
      refine ⟨⟨List.nodup_cons.mpr ⟨fun inside => (wf.nodup.mem_erase_iff.mp inside).1 rfl, wf.nodup.erase c⟩,
        fun x => (wf.managed x).trans (front x).symm⟩, fun x stands => (front x).mpr (wf.drain x stands), ?_⟩
      exact fun x stands => List.mem_cons_of_mem _ (erase_stands wf.nodup wf.idle c x stands)
  | @deactivate c member =>
      have back := mem_push_back wf member
      refine ⟨⟨?_, fun x => (wf.managed x).trans (back x).symm⟩, ?_, ?_⟩
      · refine List.nodup_append.mpr ⟨wf.nodup.erase c, List.nodup_singleton c, ?_⟩
        rintro x inside y last rfl
        exact (wf.nodup.mem_erase_iff.mp inside).1 (List.mem_singleton.mp last)
      · intro x stands
        refine (back x).mpr ?_
        simp only [record] at stands
        split at stands
        · cases following : next c s.conns with
          | none =>
              simp only [following, Option.none_or, Option.some.injEq] at stands
              exact stands ▸ member
          | some y =>
              simp only [following, Option.some_or, Option.some.injEq] at stands
              exact List.mem_of_mem_erase (next_mem wf.nodup (stands ▸ following))
        · exact wf.drain x stands
      · intro x stands
        refine (back x).mpr ?_
        simp only [record] at stands
        split at stands
        · simp only [Option.some.injEq] at stands
          exact stands ▸ member
        · exact wf.idle x stands
  | pendingAdd pending linked =>
      exact (fireCloseWhenIdle_effects _ _ (linkedAdd s _)).wellFormed (wf.of_eq rfl rfl rfl rfl)
  | pendingAddUnlinked pending unlinked => exact wf.of_eq rfl rfl rfl rfl
  | dropConnections => exact (dropConnections_effects _ _ s).wellFormed (wf.of_eq rfl rfl rfl rfl)
  | dropAll => exact dropAllConnections_wellFormed wf _
  | dropIdle => exact dropIdleConnections_wellFormed wf _ _ _

omit [DecidableEq Conn] in
theorem init_wellFormed (timeout : Int) (hasCallback : Bool) :
    WellFormed (init timeout hasCallback : ConnectionManager Conn) :=
  ⟨⟨List.nodup_nil, by simp [init]⟩, by simp [init], by simp [init]⟩

end Wangle.Proof.Acceptor
