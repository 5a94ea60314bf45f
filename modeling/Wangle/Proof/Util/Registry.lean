import Wangle.Proof.Util.PollerSteps

/-!
# The registry of a `MultiFilePoller`
-/

namespace Wangle.Proof.Util
open Wangle.Util Wangle.Keyed FilePoller MultiFilePoller
open Wangle.Transition hiding run

variable {s s' : State} {m : MultiFilePoller} {cbId : CallbackId} {path : Path}

/-- The id is listed at most once, or nothing is listed after it. -/
def Tidy (cbId : CallbackId) (callbackIds : List CallbackId) : Prop :=
  callbackIds.count cbId ≤ 1 ∨
    callbackIds = callbackIds.filter (· ≠ cbId) ++ List.replicate (callbackIds.count cbId) cbId

instance (cbId : CallbackId) (callbackIds : List CallbackId) : Decidable (Tidy cbId callbackIds) :=
  inferInstanceAs (Decidable (_ ∨ _))

theorem length_filter_add_count (cbId : CallbackId) (callbackIds : List CallbackId) :
    (callbackIds.filter (· ≠ cbId)).length + callbackIds.count cbId = callbackIds.length := by
  have isCount : callbackIds.count cbId = (callbackIds.filter fun other => !decide (other ≠ cbId)).length := by
    rw [List.count_eq_length_filter]
    simp [beq_eq_decide]
  rw [isCount, ← List.length_eq_length_filter_add]

theorem eraseRemoved_tidy {callbackIds : List CallbackId} {left : Nat} (tidy : Tidy cbId callbackIds)
    (count : callbackIds.count cbId = left + 1) :
    eraseRemoved cbId callbackIds = .ok (callbackIds.filter (· ≠ cbId) ++ List.replicate left cbId) := by
  have length := length_filter_add_count cbId callbackIds
  rw [eraseRemoved, if_neg (by omega)]
  congr 2
  rcases tidy with once | last
  · rw [List.drop_eq_nil_of_le (by omega), show left = 0 by omega]
    rfl
  · obtain ⟨kept, isKept⟩ : ∃ kept, kept = callbackIds.filter (· ≠ cbId) := ⟨_, rfl⟩
    rw [count, ← isKept] at last
    rw [← isKept, last, List.drop_append, List.drop_eq_nil_of_le (Nat.le_succ _), Nat.add_sub_cancel_left]
    simp

theorem count_erased (cbId other : CallbackId) (callbackIds : List CallbackId) (left : Nat) :
    (callbackIds.filter (· ≠ cbId) ++ List.replicate left cbId).count other =
      if other = cbId then left else callbackIds.count other := by
  split
  · rename_i same
    subst same
    rw [List.count_append, List.count_replicate_self, List.count_eq_zero.mpr (by simp), Nat.zero_add]
  · rename_i ne
    rw [List.count_append, List.count_filter (by simpa using ne), List.count_replicate, if_neg (by simpa using Ne.symm ne),
      Nat.add_zero]

theorem tidy_erased (cbId : CallbackId) (callbackIds : List CallbackId) (left : Nat) :
    Tidy cbId (callbackIds.filter (· ≠ cbId) ++ List.replicate left cbId) := by
  refine .inr ?_
  rw [count_erased, if_pos rfl, List.filter_append, List.filter_filter]
  simp

theorem callbackIds_insert (m : MultiFilePoller) (path other : Path) (ids : List CallbackId) (poller : FilePoller Path) :
    callbackIds { m with pathsToCallbackIds := m.pathsToCallbackIds.insert path ids, poller := poller } other =
      if other = path then ids else m.callbackIds other := by
  unfold callbackIds
  split
  · rename_i same
    rw [same, AList.lookup_insert]
    rfl
  · rename_i ne
    rw [AList.lookup_insert_ne ne]

theorem lookup_foldl_erase (paths : List Path) (map : Map Path (List CallbackId)) (path : Path) :
    (paths.foldl (fun map path => map.erase path) map).lookup path = if path ∈ paths then none else map.lookup path := by
  induction paths generalizing map with
  | nil => rfl
  | cons first paths ih =>
      rw [List.foldl_cons, ih]
      by_cases same : path = first
      · subst same
        simp
      · simp [same]

def registered (m : MultiFilePoller) (cbId : CallbackId) : List Path :=
  ((m.idsToCallbacks.lookup cbId).map CallbackDetail.files).getD []

theorem mem_registered : path ∈ registered m cbId ↔
    ∃ detail, m.idsToCallbacks.lookup cbId = some detail ∧ path ∈ detail.files := by
  unfold registered
  cases m.idsToCallbacks.lookup cbId with
  | none => simp
  | some detail => simp

theorem callbacks_ok (files : Files) {idsToCallbacks : Map CallbackId CallbackDetail} {ids : List CallbackId}
    (live : ∀ cbId ∈ ids, idsToCallbacks.lookup cbId ≠ none) (contents : CallbackArg) :
    ∃ calls, callbacks files idsToCallbacks ids contents = .ok calls ∧ calls.map Prod.fst = ids := by
  induction ids generalizing contents with
  | nil => exact ⟨[], rfl, rfl⟩
  | cons cbId ids ih =>
      obtain ⟨detail, found⟩ := Option.ne_none_iff_exists'.mp (live cbId List.mem_cons_self)
      obtain ⟨newData, isNewData⟩ : ∃ newData,
        newData = detail.files.foldl (fun contents path => readPath files path contents) contents := ⟨_, rfl⟩
      obtain ⟨calls, called, isIds⟩ := ih (fun other member => live other (List.mem_cons_of_mem _ member)) newData
      refine ⟨(cbId, newData) :: calls, ?_, congrArg (cbId :: ·) isIds⟩
      rw [callbacks, found]
      dsimp only
      rw [← isNewData, called]
      rfl

def filesOf (m : MultiFilePoller) (cbId : CallbackId) : Option Call → List Path
  | none => registered m cbId
  | some (.registerFiles newId cbPaths _ _) => if cbId = newId then cbPaths else registered m cbId
  | some (.cancelCallback oldId paths _ _) => if cbId = oldId then paths else registered m cbId

def Ongoing (m : MultiFilePoller) : Option Call → Prop
  | none => True
  | some (.registerFiles cbId _ paths inPollerThread) => m.idsToCallbacks.lookup cbId = none ∧
      (inPollerThread = true → ∀ path ∈ paths, path ≠ [] → path ∈ m.poller.fileDatum)
  | some (.cancelCallback cbId _ pathsToErase _) => (∀ path, Tidy cbId (m.callbackIds path)) ∧
      ∀ path ∈ pathsToErase, m.callbackIds path = []

structure Registry (m : MultiFilePoller) (call : Option Call) : Prop where
  counts : ∀ cbId path, (m.callbackIds path).count cbId = (filesOf m cbId call).count path
  tracked : ∀ path ≠ [], m.callbackIds path ≠ [] → path ∈ m.poller.fileDatum
  ongoing : Ongoing m call

/-- Files are registered in the poller thread only if they are tracked, and a callback that is cancelled is listed at
most once, or last. -/
def Registers (s : State) : Op → Prop
  | .registerFiles paths inPollerThread =>
      inPollerThread = true → ∀ path ∈ paths, path ≠ [] → path ∈ s.multi.poller.fileDatum
  | .cancelCallback cbId _ => ∀ path ∈ registered s.multi cbId, Tidy cbId (s.multi.callbackIds path)
  | _ => True

instance (s : State) : (op : Op) → Decidable (Registers s op)
  | .registerFiles paths inPollerThread => inferInstanceAs (Decidable
      (inPollerThread = true → ∀ path ∈ paths, path ≠ [] → path ∈ s.multi.poller.fileDatum))
  | .cancelCallback cbId _ =>
      inferInstanceAs (Decidable (∀ path ∈ registered s.multi cbId, Tidy cbId (s.multi.callbackIds path)))
  | .write .. | .remove _ | .registerPath | .registerReturns | .cancelPath | .cancelReturns | .checkFiles _
  | .checkFile | .onFileUpdated | .checkReturns => isTrue trivial

theorem lookup_addFileToTrack (files : Files) (inPollerThread : Bool) (path : Path) (fData : FileData Path)
    (poller : FilePoller Path) (other : Path) :
    (poller.addFileToTrack files inPollerThread path fData).fileDatum.lookup other =
      if other = path ∧ locks inPollerThread path = true then some (initFileData files path fData)
      else poller.fileDatum.lookup other := by
  unfold addFileToTrack
  by_cases isLocked : locks inPollerThread path = true
  · by_cases same : other = path
    · subst same
      simp [isLocked]
    · simp [isLocked, same, AList.lookup_insert_ne]
  · simp [isLocked]

theorem lookup_removeFileToTrack (inPollerThread : Bool) (path : Path) (poller : FilePoller Path) (other : Path) :
    (poller.removeFileToTrack inPollerThread path).fileDatum.lookup other =
      if other = path ∧ locks inPollerThread path = true then none else poller.fileDatum.lookup other := by
  unfold FilePoller.removeFileToTrack
  by_cases isLocked : locks inPollerThread path = true
  · by_cases same : other = path
    · subst same
      simp [isLocked]
    · simp [isLocked, same, AList.lookup_erase_ne]
  · simp [isLocked]

theorem lookup_setModData (path : Path) (modData : FileModificationData) (poller : FilePoller Path) (other : Path) :
    (poller.setModData path modData).fileDatum.lookup other =
      if other = path then (poller.fileDatum.lookup path).map fun fileData => { fileData with modData := modData }
      else poller.fileDatum.lookup other := by
  unfold setModData
  by_cases same : other = path
  · subst same
    cases found : poller.fileDatum.lookup other with
    | none => simpa using found
    | some fileData => simp
  · cases found : poller.fileDatum.lookup path with
    | none => simp [same]
    | some fileData => simp [same, AList.lookup_insert_ne]

theorem mem_addFileToTrack {files : Files} {inPollerThread : Bool} {fData : FileData Path} {poller : FilePoller Path}
    {other : Path} : other ∈ (poller.addFileToTrack files inPollerThread path fData).fileDatum ↔
      (other = path ∧ locks inPollerThread path = true) ∨ other ∈ poller.fileDatum := by
  rw [← AList.lookup_isSome, ← AList.lookup_isSome, lookup_addFileToTrack]
  split
  · rename_i added
    simp [added]
  · rename_i other
    simp [other]

theorem mem_removeFileToTrack {inPollerThread : Bool} {poller : FilePoller Path} {other : Path} :
    other ∈ (poller.removeFileToTrack inPollerThread path).fileDatum ↔
      ¬ (other = path ∧ locks inPollerThread path = true) ∧ other ∈ poller.fileDatum := by
  rw [← AList.lookup_isSome, ← AList.lookup_isSome, lookup_removeFileToTrack]
  split
  · rename_i removed
    simp [removed]
  · rename_i other
    simp [other]

theorem mem_setModData {modData : FileModificationData} {poller : FilePoller Path} {other : Path} :
    other ∈ (poller.setModData path modData).fileDatum ↔ other ∈ poller.fileDatum := by
  rw [← AList.lookup_isSome, ← AList.lookup_isSome, lookup_setModData]
  split
  · rename_i same
    subst same
    rw [Option.isSome_map]
  · rfl

def Counts (m : MultiFilePoller) (call : Option Call) : Prop :=
  ∀ cbId path, (m.callbackIds path).count cbId = (filesOf m cbId call).count path

namespace Counts
variable {paths cbPaths : List Path} {inPollerThread : Bool}

theorem registerFiles (counts : Counts m none) (unused : m.idsToCallbacks.lookup cbId = none) :
    Counts (withId cbId m) (some (.registerFiles cbId [] paths inPollerThread)) := by
  intro other path
  refine (counts other path).trans ?_
  show _ = (if other = cbId then [] else registered m other).count path
  split
  · rename_i same
    rw [same, filesOf, registered, unused]
    rfl
  · rfl

theorem registerPath (counts : Counts m (some (.registerFiles cbId cbPaths (path :: paths) inPollerThread)))
    (files : Files) :
    Counts (m.registerPath files inPollerThread cbId path)
      (some (.registerFiles cbId (cbPaths ++ [path]) paths inPollerThread)) := by
  intro id other
  have before := counts id other
  rw [filesOf] at before
  rw [MultiFilePoller.registerPath, callbackIds_insert, filesOf]
  show _ = (if id = cbId then cbPaths ++ [path] else registered m id).count other
  by_cases sameId : id = cbId
  · rw [if_pos sameId] at before ⊢
    by_cases samePath : other = path
    · subst sameId samePath
      rw [if_pos rfl, List.count_append, List.count_append, before, List.count_singleton_self, List.count_singleton_self]
    · rw [if_neg samePath, before, List.count_append, List.count_singleton, if_neg (by simpa using Ne.symm samePath),
        Nat.add_zero]
  · rw [if_neg sameId] at before ⊢
    split
    · rename_i samePath
      rw [← samePath, List.count_append, before, List.count_singleton, if_neg (by simpa using Ne.symm sameId), Nat.add_zero]
    · exact before

theorem registerReturns (counts : Counts m (some (.registerFiles cbId cbPaths [] inPollerThread)))
    (unused : m.idsToCallbacks.lookup cbId = none) : Counts (withCallback cbId cbPaths m) none := by
  intro id path
  refine (counts id path).trans ?_
  rw [filesOf, filesOf]
  congr 1
  split
  · rename_i same
    rw [same, registered, withCallback, lookup_emplace_self, unused]
    rfl
  · rename_i ne
    rw [registered, registered, withCallback, lookup_emplace_of_ne ne]

end Counts

namespace Registry
variable {call : Option Call}

theorem setModData (registry : Registry m call) (path : Path) (modData : FileModificationData) :
    Registry { m with poller := m.poller.setModData path modData } call where
  counts := by
    intro cbId path
    have counts := registry.counts cbId path
    cases call with
    | none => exact counts
    | some call => cases call <;> exact counts
  tracked path nonempty listed := mem_setModData.mpr (registry.tracked path nonempty listed)
  ongoing := by
    have ongoing := registry.ongoing
    cases call with
    | none => trivial
    | some call =>
        cases call with
        | registerFiles cbId cbPaths paths inPollerThread =>
            exact ⟨ongoing.1, fun inThread path member nonempty => mem_setModData.mpr (ongoing.2 inThread path member nonempty)⟩
        | cancelCallback => exact ongoing

theorem registerFiles (registry : Registry m none) {paths : List Path} {inPollerThread : Bool}
    (unused : m.idsToCallbacks.lookup cbId = none)
    (inThread : inPollerThread = true → ∀ path ∈ paths, path ≠ [] → path ∈ m.poller.fileDatum) :
    Registry (withId cbId m) (some (.registerFiles cbId [] paths inPollerThread)) where
  counts := Counts.registerFiles registry.counts unused
  tracked := registry.tracked
  ongoing := ⟨unused, inThread⟩

theorem registerPath {cbPaths paths : List Path} {inPollerThread : Bool}
    (registry : Registry m (some (.registerFiles cbId cbPaths (path :: paths) inPollerThread))) (files : Files) :
    Registry (m.registerPath files inPollerThread cbId path)
      (some (.registerFiles cbId (cbPaths ++ [path]) paths inPollerThread)) where
  counts := Counts.registerPath registry.counts files
  tracked := by
    intro other nonempty listed
    rw [MultiFilePoller.registerPath, callbackIds_insert] at listed
    refine mem_addFileToTrack.mpr ?_
    by_cases same : other = path
    · cases inPollerThread with
      | false =>
          refine .inl ⟨same, ?_⟩
          rw [same] at nonempty
          simpa [locks] using nonempty
      | true =>
          have inThread := registry.ongoing.2 rfl path List.mem_cons_self
          exact .inr (same ▸ inThread (same ▸ nonempty))
    · rw [if_neg same] at listed
      exact .inr (registry.tracked other nonempty listed)
  ongoing := by
    refine ⟨registry.ongoing.1, fun inThread other member nonempty => mem_addFileToTrack.mpr (.inr ?_)⟩
    exact registry.ongoing.2 inThread other (List.mem_cons_of_mem _ member) nonempty

theorem registerReturns {cbPaths : List Path} {inPollerThread : Bool}
    (registry : Registry m (some (.registerFiles cbId cbPaths [] inPollerThread))) :
    Registry (withCallback cbId cbPaths m) none where
  counts := Counts.registerReturns registry.counts registry.ongoing.1
  tracked := registry.tracked
  ongoing := trivial

theorem cancelCallback (registry : Registry m none) {pos : CallbackDetail} {inPollerThread : Bool}
    (found : m.idsToCallbacks.lookup cbId = some pos) (tidy : ∀ path ∈ registered m cbId, Tidy cbId (m.callbackIds path)) :
    Registry m (some (.cancelCallback cbId pos.files [] inPollerThread)) where
  counts := by
    intro id path
    refine (registry.counts id path).trans ?_
    rw [filesOf, filesOf]
    split
    · rename_i same
      rw [same, registered, found]
      rfl
    · rfl
  tracked := registry.tracked
  ongoing := by
    refine ⟨fun path => ?_, fun path member => by cases member⟩
    by_cases isFile : path ∈ registered m cbId
    · exact tidy path isFile
    · refine .inl ?_
      rw [registry.counts, filesOf, List.count_eq_zero.mpr isFile]
      exact Nat.zero_le 1

theorem erased {paths pathsToErase : List Path} {inPollerThread : Bool}
    (registry : Registry m (some (.cancelCallback cbId (path :: paths) pathsToErase inPollerThread))) :
    eraseRemoved cbId (m.callbackIds path) =
      .ok ((m.callbackIds path).filter (· ≠ cbId) ++ List.replicate (paths.count path) cbId) := by
  refine eraseRemoved_tidy (registry.ongoing.1 path) ?_
  rw [registry.counts, filesOf, if_pos rfl, List.count_cons_self]

theorem next_listed {paths pathsToErase : List Path} {inPollerThread : Bool}
    (registry : Registry m (some (.cancelCallback cbId (path :: paths) pathsToErase inPollerThread))) :
    m.callbackIds path ≠ [] := by
  have counts := registry.counts cbId path
  rw [filesOf, if_pos rfl, List.count_cons_self] at counts
  intro none
  rw [none, List.count_nil] at counts
  omega

theorem mem_cancelPath {paths pathsToErase : List Path} {inPollerThread : Bool} {ids : List CallbackId}
    (registry : Registry m (some (.cancelCallback cbId (path :: paths) pathsToErase inPollerThread)))
    (erased : eraseRemoved cbId (m.callbackIds path) = .ok ids) {other : CallbackId} (ne : other ≠ cbId)
    (poller : FilePoller Path) (file : Path) :
    other ∈ callbackIds { m with pathsToCallbackIds := m.pathsToCallbackIds.insert path ids, poller := poller } file ↔
      other ∈ m.callbackIds file := by
  have isErased := registry.erased
  rw [erased] at isErased
  rw [callbackIds_insert, Except.ok.inj isErased]
  split
  · rename_i same
    rw [← List.count_pos_iff, count_erased, if_neg ne, List.count_pos_iff, same]
  · rfl

theorem cancelPath {paths pathsToErase pathsToErase' : List Path} {inPollerThread : Bool} {ids : List CallbackId}
    (registry : Registry m (some (.cancelCallback cbId (path :: paths) pathsToErase inPollerThread)))
    (erased : eraseRemoved cbId (m.callbackIds path) = .ok ids) {poller : FilePoller Path}
    (same : ∀ other, ¬ (other = path ∧ ids = []) → other ∈ m.poller.fileDatum → other ∈ poller.fileDatum)
    (erases : ∀ other ∈ pathsToErase', other ∈ pathsToErase ∨ (other = path ∧ ids = [])) :
    Registry { m with pathsToCallbackIds := m.pathsToCallbackIds.insert path ids, poller := poller }
      (some (.cancelCallback cbId paths pathsToErase' inPollerThread)) := by
  have isErased := registry.erased
  rw [erased] at isErased
  cases isErased
  constructor
  · intro id other
    have counts := registry.counts id other
    rw [filesOf] at counts
    rw [callbackIds_insert, filesOf]
    show _ = (if id = cbId then paths else registered m id).count other
    by_cases sameId : id = cbId
    · rw [if_pos sameId] at counts ⊢
      split
      · rename_i samePath
        rw [count_erased, if_pos sameId, samePath]
      · rename_i samePath
        rw [counts, List.count_cons, if_neg (by simpa using Ne.symm samePath), Nat.add_zero]
    · rw [if_neg sameId] at counts ⊢
      split
      · rename_i samePath
        rw [count_erased, if_neg sameId, ← samePath, counts]
      · exact counts
  · intro other nonempty listed
    rw [callbackIds_insert] at listed
    refine same other (fun emptied => ?_) (registry.tracked other nonempty ?_)
    · rw [if_pos emptied.1] at listed
      exact listed emptied.2
    · by_cases samePath : other = path
      · exact samePath ▸ registry.next_listed
      · rwa [if_neg samePath] at listed
  · refine ⟨fun other => ?_, fun other member => ?_⟩
    · rw [callbackIds_insert]
      split
      · exact tidy_erased ..
      · exact registry.ongoing.1 other
    · rw [callbackIds_insert]
      split
      · rename_i samePath
        rcases erases other member with old | emptied
        · exact absurd (samePath ▸ registry.ongoing.2 other old) registry.next_listed
        · exact emptied.2
      · rename_i ne
        rcases erases other member with old | emptied
        · exact registry.ongoing.2 other old
        · exact absurd emptied.1 ne

theorem callbackIds_cancelReturns {pathsToErase : List Path} {inPollerThread : Bool}
    (registry : Registry m (some (.cancelCallback cbId [] pathsToErase inPollerThread))) (path : Path) :
    ((withoutCallback cbId m).erasePaths pathsToErase).callbackIds path = m.callbackIds path := by
  unfold callbackIds erasePaths withoutCallback
  rw [lookup_foldl_erase]
  split
  · rename_i member
    exact (registry.ongoing.2 path member).symm
  · rfl

theorem cancelReturns {pathsToErase : List Path} {inPollerThread : Bool}
    (registry : Registry m (some (.cancelCallback cbId [] pathsToErase inPollerThread))) :
    Registry ((withoutCallback cbId m).erasePaths pathsToErase) none := by
  have same := registry.callbackIds_cancelReturns
  refine ⟨fun id path => ?_, fun path nonempty listed => ?_, trivial⟩
  · rw [same]
    refine (registry.counts id path).trans ?_
    rw [filesOf, filesOf]
    congr 1
    split
    · rename_i sameId
      rw [registered, sameId]
      show _ = (((m.idsToCallbacks.erase cbId).lookup cbId).map CallbackDetail.files).getD []
      rw [AList.lookup_erase]
      rfl
    · rename_i ne
      rw [registered, registered]
      show _ = (((m.idsToCallbacks.erase cbId).lookup id).map CallbackDetail.files).getD []
      rw [AList.lookup_erase_ne ne]
  · rw [same] at listed
    exact registry.tracked path nonempty listed

theorem step {op : Op} (registry : Registry s.multi s.call) (registers : Registers s op)
    (taken : MultiFilePoller.step s op = .ok s') : Registry s'.multi s'.call := by
  cases moves_of_step taken with
  | write => exact registry
  | remove => exact registry
  | registerThrows => exact registry
  | registerFiles paths inPollerThread cbId free unused => exact (free ▸ registry).registerFiles unused registers
  | registerPath cbId cbPaths path paths inPollerThread isCall unlocked => exact (isCall ▸ registry).registerPath s.files
  | registerReturns cbId cbPaths inPollerThread isCall => exact (isCall ▸ registry).registerReturns
  | cancelThrows => exact registry
  | cancelCallback cbId inPollerThread pos free found => exact (free ▸ registry).cancelCallback found registers
  | cancelPath cbId path paths pathsToErase inPollerThread callbackIds isCall erased more =>
      exact (isCall ▸ registry).cancelPath erased (fun other _ member => member) fun other member => .inl member
  | cancelLast cbId path paths pathsToErase inPollerThread isCall erased unlocked =>
      refine (isCall ▸ registry).cancelPath erased (fun other others member => ?_) fun other member => ?_
      · exact mem_removeFileToTrack.mpr ⟨fun both => others ⟨both.1, rfl⟩, member⟩
      · rcases List.mem_append.mp member with old | last
        · exact .inl old
        · exact .inr ⟨List.mem_singleton.mp last, rfl⟩
  | cancelReturns cbId pathsToErase inPollerThread isCall => exact (isCall ▸ registry).cancelReturns
  | checkFiles => exact registry
  | triggered => exact registry
  | untouched path => exact registry.setModData path _
  | onFileUpdated paths file => exact registry.setModData file.fileName file.modData
  | checkReturns => exact registry

theorem undisturbed (registry : Registry s.multi s.call) {paths pathsToErase : List Path} {inPollerThread : Bool}
    (isCall : s.call = some (.cancelCallback cbId paths pathsToErase inPollerThread)) {op : Op}
    (taken : MultiFilePoller.step s op = .ok s') {other : CallbackId} (ne : other ≠ cbId) (path : Path) :
    other ∈ s'.multi.callbackIds path ↔ other ∈ s.multi.callbackIds path := by
  cases moves_of_step taken with
  | registerPath newId cbPaths file paths inPollerThread isOther => cases isCall.symm.trans isOther
  | cancelPath oldId file paths pathsToErase inPollerThread callbackIds isOther erased more =>
      have same := isCall.symm.trans isOther
      cases same
      exact (isCall ▸ registry : Registry _ _).mem_cancelPath erased ne s.multi.poller path
  | cancelLast oldId file paths pathsToErase inPollerThread isOther erased unlocked =>
      have same := isCall.symm.trans isOther
      cases same
      exact (isCall ▸ registry : Registry _ _).mem_cancelPath erased ne _ path
  | cancelReturns oldId pathsToErase inPollerThread isOther =>
      rw [isOther] at registry
      exact iff_of_eq (congrArg (other ∈ ·) (registry.callbackIds_cancelReturns path))
  | _ => rfl

theorem mem_callbackIds (registry : Registry m none) : cbId ∈ m.callbackIds path ↔
    ∃ detail, m.idsToCallbacks.lookup cbId = some detail ∧ path ∈ detail.files := by
  rw [← List.count_pos_iff, registry.counts, List.count_pos_iff]
  exact mem_registered

theorem onFileUpdated_ok (registry : Registry m none) (files : Files) (path : Path) :
    ∃ calls, m.onFileUpdated files path = .ok calls ∧ calls.map Prod.fst = m.callbackIds path := by
  refine callbacks_ok files (fun cbId listed => ?_) ∅
  obtain ⟨detail, found, -⟩ := registry.mem_callbackIds.mp listed
  rw [found]
  exact Option.some_ne_none detail

theorem step_error {op : Op} {e : Fault} (registry : Registry s.multi s.call)
    (stuck : MultiFilePoller.step s op = .error e) : e = .blocked ∨ e = .impossible := by
  cases op with
  | write =>
      simp only [MultiFilePoller.step, State.write] at stuck
      split at stuck <;> cases stuck
      exact .inr rfl
  | remove => cases stuck
  | registerFiles =>
      simp only [MultiFilePoller.step, State.registerFiles] at stuck
      split at stuck
      · cases stuck
      · split at stuck
        · exact .inl (by cases stuck; rfl)
        · split at stuck <;> cases stuck
  | registerPath =>
      simp only [MultiFilePoller.step, State.registerPath] at stuck
      split at stuck
      · split at stuck <;> cases stuck
        exact .inl rfl
      · exact .inr (by cases stuck; rfl)
  | registerReturns =>
      simp only [MultiFilePoller.step, State.registerReturns] at stuck
      split at stuck <;> cases stuck
      exact .inr rfl
  | cancelCallback =>
      simp only [MultiFilePoller.step, State.cancelCallback] at stuck
      split at stuck
      · exact .inl (by cases stuck; rfl)
      · split at stuck <;> cases stuck
  | cancelPath =>
      simp only [MultiFilePoller.step, State.cancelPath] at stuck
      split at stuck
      · rename_i isCall
        rw [isCall] at registry
        rw [registry.erased] at stuck
        dsimp only at stuck
        split at stuck
        · split at stuck <;> cases stuck
          exact .inl rfl
        · cases stuck
      · exact .inr (by cases stuck; rfl)
  | cancelReturns =>
      simp only [MultiFilePoller.step, State.cancelReturns] at stuck
      split at stuck <;> cases stuck
      exact .inr rfl
  | checkFiles =>
      simp only [MultiFilePoller.step, State.checkFiles] at stuck
      split at stuck <;> cases stuck
      exact .inr rfl
  | checkFile =>
      simp only [MultiFilePoller.step, State.checkFile] at stuck
      split at stuck
      · split at stuck
        · exact .inr (by cases stuck; rfl)
        · split at stuck <;> cases stuck
      · exact .inr (by cases stuck; rfl)
  | onFileUpdated =>
      simp only [MultiFilePoller.step, State.onFileUpdated] at stuck
      split at stuck
      · split at stuck
        · exact .inl (by cases stuck; rfl)
        · rename_i file _ free
          rw [show s.call = none by simpa using free] at registry
          obtain ⟨calls, called, -⟩ := registry.onFileUpdated_ok s.files file.triggeredPath
          rw [called] at stuck
          cases stuck
      · exact .inr (by cases stuck; rfl)
  | checkReturns =>
      simp only [MultiFilePoller.step, State.checkReturns] at stuck
      split at stuck <;> cases stuck
      exact .inr rfl

end Registry

theorem new_registry : Registry {} none := ⟨fun _ _ => rfl, fun _ _ listed => absurd rfl listed, trivial⟩

/-- No file with the empty path is registered, and a callback that is cancelled in the poller thread is not the last one
of a path. -/
def Tracks (s : State) : Op → Prop
  | .registerFiles paths _ => [] ∉ paths
  | .cancelCallback cbId inPollerThread => inPollerThread = true →
      ∀ path ∈ registered s.multi cbId, ∃ other ∈ s.multi.callbackIds path, other ≠ cbId
  | _ => True

instance (s : State) : (op : Op) → Decidable (Tracks s op)
  | .registerFiles paths _ => inferInstanceAs (Decidable ([] ∉ paths))
  | .cancelCallback cbId inPollerThread => inferInstanceAs (Decidable
      (inPollerThread = true → ∀ path ∈ registered s.multi cbId, ∃ other ∈ s.multi.callbackIds path, other ≠ cbId))
  | .write .. | .remove _ | .registerPath | .registerReturns | .cancelPath | .cancelReturns | .checkFiles _
  | .checkFile | .onFileUpdated | .checkReturns => isTrue trivial

def OngoingTracks (m : MultiFilePoller) : Option Call → Prop
  | none => True
  | some (.registerFiles _ _ paths _) => [] ∉ paths
  | some (.cancelCallback cbId paths _ inPollerThread) => inPollerThread = true →
      ∀ path ∈ paths, ∃ other ∈ m.callbackIds path, other ≠ cbId

structure Exact (m : MultiFilePoller) (call : Option Call) : Prop where
  listed : ∀ path ∈ m.poller.fileDatum, m.callbackIds path ≠ []
  noEmpty : m.callbackIds [] = []
  ongoing : OngoingTracks m call

namespace Exact
variable {call : Option Call}

theorem setModData (precise : Exact m call) (path : Path) (modData : FileModificationData) :
    Exact { m with poller := m.poller.setModData path modData } call where
  listed path member := precise.listed path (mem_setModData.mp member)
  noEmpty := precise.noEmpty
  ongoing := by
    have ongoing := precise.ongoing
    cases call with
    | none => trivial
    | some call => cases call <;> exact ongoing

theorem registerPath {cbPaths paths : List Path} {inPollerThread : Bool}
    (precise : Exact m (some (.registerFiles cbId cbPaths (path :: paths) inPollerThread))) (files : Files) :
    Exact (m.registerPath files inPollerThread cbId path)
      (some (.registerFiles cbId (cbPaths ++ [path]) paths inPollerThread)) where
  listed := by
    intro other member
    rw [MultiFilePoller.registerPath, callbackIds_insert]
    split
    · simp
    · rename_i ne
      rcases mem_addFileToTrack.mp member with added | old
      · exact absurd added.1 ne
      · exact precise.listed other old
  noEmpty := by
    have ongoing : [] ∉ path :: paths := precise.ongoing
    rw [MultiFilePoller.registerPath, callbackIds_insert, if_neg (List.ne_of_not_mem_cons ongoing)]
    exact precise.noEmpty
  ongoing := fun member => precise.ongoing (List.mem_cons_of_mem _ member)

theorem cancelPath {paths pathsToErase pathsToErase' : List Path} {inPollerThread : Bool} {ids : List CallbackId}
    (precise : Exact m (some (.cancelCallback cbId (path :: paths) pathsToErase inPollerThread)))
    (registry : Registry m (some (.cancelCallback cbId (path :: paths) pathsToErase inPollerThread)))
    (erased : eraseRemoved cbId (m.callbackIds path) = .ok ids) {poller : FilePoller Path}
    (fewer : ∀ other ∈ poller.fileDatum, other ∈ m.poller.fileDatum)
    (removed : ids = [] → locks inPollerThread path = true → path ∉ poller.fileDatum) :
    Exact { m with pathsToCallbackIds := m.pathsToCallbackIds.insert path ids, poller := poller }
      (some (.cancelCallback cbId paths pathsToErase' inPollerThread)) := by
  have isErased := registry.erased
  rw [erased] at isErased
  have isIds := Except.ok.inj isErased
  have nonempty : path ≠ [] := fun none => registry.next_listed (none ▸ precise.noEmpty)
  have kept : ∀ other ∈ m.callbackIds path, other ≠ cbId → other ∈ ids := by
    intro other member ne
    rw [isIds]
    exact List.mem_append_left _ (List.mem_filter.mpr ⟨member, by simpa using ne⟩)
  refine ⟨fun other member => ?_, ?_, fun inThread other member => ?_⟩
  · rw [callbackIds_insert]
    split
    · rename_i same
      intro none
      refine removed none ?_ (same ▸ member)
      cases inPollerThread with
      | false => simpa [locks] using nonempty
      | true =>
          obtain ⟨other, isOther, ne⟩ := precise.ongoing rfl path List.mem_cons_self
          exact absurd (none ▸ kept other isOther ne) List.not_mem_nil
    · exact precise.listed other (fewer other member)
  · rw [callbackIds_insert, if_neg nonempty.symm]
    exact precise.noEmpty
  · obtain ⟨third, isThird, ne⟩ := precise.ongoing inThread other (List.mem_cons_of_mem _ member)
    rw [callbackIds_insert]
    split
    · rename_i same
      exact ⟨third, kept third (same ▸ isThird) ne, ne⟩
    · exact ⟨third, isThird, ne⟩

theorem step {op : Op} (precise : Exact s.multi s.call) (registry : Registry s.multi s.call) (tracks : Tracks s op)
    (taken : MultiFilePoller.step s op = .ok s') : Exact s'.multi s'.call := by
  cases moves_of_step taken with
  | write => exact precise
  | remove => exact precise
  | registerThrows => exact precise
  | registerFiles paths inPollerThread cbId free unused => exact ⟨precise.listed, precise.noEmpty, tracks⟩
  | registerPath cbId cbPaths path paths inPollerThread isCall unlocked => exact (isCall ▸ precise).registerPath s.files
  | registerReturns => exact ⟨precise.listed, precise.noEmpty, trivial⟩
  | cancelThrows => exact precise
  | cancelCallback cbId inPollerThread pos free found =>
      refine ⟨precise.listed, precise.noEmpty, fun inThread path member => tracks inThread path ?_⟩
      exact mem_registered.mpr ⟨pos, found, member⟩
  | cancelPath cbId path paths pathsToErase inPollerThread callbackIds isCall erased more =>
      exact (isCall ▸ precise).cancelPath (isCall ▸ registry) erased (fun other member => member) fun none => absurd none more
  | cancelLast cbId path paths pathsToErase inPollerThread isCall erased unlocked =>
      refine (isCall ▸ precise).cancelPath (isCall ▸ registry) erased (fun other member => ?_) fun _ isLocked member => ?_
      · exact (mem_removeFileToTrack.mp member).2
      · exact (mem_removeFileToTrack.mp member).1 ⟨rfl, isLocked⟩
  | cancelReturns cbId pathsToErase inPollerThread isCall =>
      have same := (isCall ▸ registry : Registry _ _).callbackIds_cancelReturns
      refine ⟨fun path member => ?_, ?_, trivial⟩
      · exact (same path).symm ▸ precise.listed path member
      · exact (same []).trans precise.noEmpty
  | checkFiles => exact precise
  | triggered => exact precise
  | untouched path => exact precise.setModData path _
  | onFileUpdated paths file => exact precise.setModData file.fileName file.modData
  | checkReturns => exact precise

end Exact

structure Consistent (s : State) : Prop where
  listed : s.call = none → ∀ cbId path, cbId ∈ s.multi.callbackIds path ↔
    ∃ detail, s.multi.idsToCallbacks.lookup cbId = some detail ∧ path ∈ detail.files
  tracked : s.call = none → ∀ path, path ∈ s.multi.poller.fileDatum ↔
    ∃ cbId detail, s.multi.idsToCallbacks.lookup cbId = some detail ∧ path ∈ detail.files
  undisturbed : ∀ cbId paths pathsToErase inPollerThread,
    s.call = some (.cancelCallback cbId paths pathsToErase inPollerThread) → ∀ op s', step s op = .ok s' →
      ∀ other ≠ cbId, ∀ path, other ∈ s'.multi.callbackIds path ↔ other ∈ s.multi.callbackIds path

theorem Registry.consistent (registry : Registry s.multi s.call) (precise : Exact s.multi s.call) : Consistent s := by
  have listed (atRest : s.call = none) (cbId : CallbackId) (path : Path) : cbId ∈ s.multi.callbackIds path ↔
      ∃ detail, s.multi.idsToCallbacks.lookup cbId = some detail ∧ path ∈ detail.files := by
    rw [atRest] at registry
    exact registry.mem_callbackIds
  refine ⟨listed, fun atRest path => ⟨fun isTracked => ?_, ?_⟩, ?_⟩
  · obtain ⟨cbId, member⟩ := List.exists_mem_of_ne_nil _ (precise.listed path isTracked)
    exact ⟨cbId, (listed atRest cbId path).mp member⟩
  · rintro ⟨cbId, live⟩
    have member := (listed atRest cbId path).mpr live
    refine registry.tracked path (fun none => ?_) (List.ne_nil_of_mem member)
    rw [none, precise.noEmpty] at member
    cases member
  · intro cbId paths pathsToErase inPollerThread isCall op s' taken other ne path
    exact registry.undisturbed isCall taken ne path

/-- The registry is consistent and no end position is erased, if no file with the empty path is registered, callbacks are
cancelled only if they are listed once or last, and calls in the poller thread leave the same paths tracked. -/
theorem registry_consistent (files : Files) (ops : List Op)
    (along : Along step (fun s op => Registers s op ∧ Tracks s op) { files } ops) :
    Yields (· = .eraseAtEnd) Consistent (run { files } ops) := by
  have start : Exact {} none := ⟨fun path member => absurd member (AList.notMem_empty path), rfl, trivial⟩
  refine (yields_run (I := fun s => Registry s.multi s.call ∧ Exact s.multi s.call) (fun s op both keeps => ?_)
    ⟨new_registry, start⟩ along).imp
    fun s both => both.1.consistent both.2
  cases taken : step s op with
  | error e =>
      rcases both.1.step_error taken with rfl | rfl
      · exact fun atEnd => by cases atEnd
      · exact fun atEnd => by cases atEnd
  | ok s' => exact ⟨both.1.step keeps.1 taken, both.2.step both.1 keeps.2 taken⟩

section examples

def noFiles : State := { files := fun _ => none }

def registering (paths : List Path) : List Op :=
  .registerFiles paths false :: paths.map (fun _ => .registerPath) ++ [.registerReturns]

def cancelling (cbId : CallbackId) (files : Nat) : List Op :=
  .cancelCallback cbId false :: List.replicate files .cancelPath ++ [.cancelReturns]

def overlapping : List Op := registering [['a'], ['b'], ['b']] ++ registering [['a'], ['b']] ++ cancelling 2 2

theorem registry_consistent_overlapping : ∃ s, run noFiles overlapping = .ok s ∧
    s.multi.callbackIds ['a'] = [1] ∧ s.multi.callbackIds ['b'] = [1, 1] ∧ Consistent s := by
  have along : Along step (fun s op => Registers s op ∧ Tracks s op) noFiles overlapping := by decide
  exact ⟨_, rfl, by decide, by decide, (registry_consistent _ overlapping along).of_ok rfl⟩

/-- A callback with a repeated path is cancelled while another is listed after it, the empty path is registered but not
tracked, and so is a path that is registered in the poller thread. -/
theorem registry_not_consistent :
    run noFiles (registering [['a'], ['a']] ++ registering [['a']] ++ [.cancelCallback 1 false, .cancelPath, .cancelPath]) =
      .error .eraseAtEnd ∧
    (∃ s, run noFiles (registering [[]]) = .ok s ∧ s.call = none ∧ s.multi.callbackIds [] = [1] ∧
      [] ∉ s.multi.poller.fileDatum) ∧
    (∃ s, run noFiles [.registerFiles [['a']] true, .registerPath, .registerReturns] = .ok s ∧ s.call = none ∧
      s.multi.callbackIds ['a'] = [1] ∧ ['a'] ∉ s.multi.poller.fileDatum) ∧
    ∃ s, run noFiles (registering [['a']] ++ [.cancelCallback 1 true, .cancelPath, .cancelReturns]) = .ok s ∧
      s.call = none ∧ s.multi.callbackIds ['a'] = [] ∧ ['a'] ∈ s.multi.poller.fileDatum :=
  ⟨rfl, ⟨_, rfl, rfl, by decide, by decide⟩, ⟨_, rfl, rfl, by decide, by decide⟩, ⟨_, rfl, rfl, by decide, by decide⟩⟩

end examples

end Wangle.Proof.Util
