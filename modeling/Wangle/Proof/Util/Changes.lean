import Wangle.Proof.Util.Registry

/-!
# Changes of files reach the callbacks
-/

namespace Wangle.Proof.Util
open Wangle.Util Wangle.Keyed FilePoller MultiFilePoller
open Wangle.Transition hiding run

variable {s s' : State} {cbId : CallbackId} {path : Path}

def changed (s : State) (path : Path) : Bool :=
  (s.multi.poller.fileDatum.lookup path).any fun fileData =>
    fileTouchedCondInternal fileData.modData (getFileModData s.files path)

def resets : Option Call → Option Path
  | some (.registerFiles _ _ (path :: _) inPollerThread) => if locks inPollerThread path then some path else none
  | _ => none

/-- A new modification time is not the recorded one, and the path is not registered again while a change is unseen. -/
def KeepsChange (path : Path) (s : State) : Op → Prop
  | .write other file => other = path → ∀ fileData ∈ s.multi.poller.fileDatum.lookup path,
      fileData.modData.fileExists = true → fileData.modData.modTime ≠ file.modTime
  | .registerPath => resets s.call = some path → changed s path = false
  | _ => True

instance (path : Path) (s : State) : (op : Op) → Decidable (KeepsChange path s op)
  | .write other file => inferInstanceAs (Decidable (other = path → ∀ fileData ∈ s.multi.poller.fileDatum.lookup path,
      fileData.modData.fileExists = true → fileData.modData.modTime ≠ file.modTime))
  | .registerPath => inferInstanceAs (Decidable (resets s.call = some path → changed s path = false))
  | .remove _ | .registerFiles .. | .registerReturns | .cancelCallback .. | .cancelPath | .cancelReturns
  | .checkFiles _ | .checkFile | .onFileUpdated | .checkReturns => isTrue trivial

/-- No call overlaps a poll. -/
def Apart (s : State) : Op → Prop
  | .registerFiles .. => s.poll = none
  | .cancelCallback .. => s.poll = none
  | .checkFiles _ => s.call = none
  | _ => True

structure Polls (s : State) : Prop where
  cobs : ∀ path fileData, s.multi.poller.fileDatum.lookup path = some fileData →
    fileData = { yCob := some path, modData := fileData.modData }
  paths : ∀ poll, s.poll = some poll → ∀ path ∈ poll.paths, path ∈ s.multi.poller.fileDatum
  triggered : ∀ poll file, s.poll = some poll → poll.triggered = some file → file.triggeredPath = file.fileName

theorem cob_eq (polls : Polls s) {fileData : FileData Path}
    (found : s.multi.poller.fileDatum.lookup path = some fileData) :
    fileData.cob (getFileModData s.files path) = if changed s path then some path else none := by
  have isChanged : changed s path = fileTouchedCondInternal fileData.modData (getFileModData s.files path) := by
    rw [changed, found]
    rfl
  rw [isChanged, polls.cobs path fileData found]
  unfold FileData.cob
  simp

namespace Polls

theorem recordModData (polls : Polls s) (path : Path) (modData : FileModificationData) {poll : Poll}
    (isPoll : s.poll = some poll) {paths : List Path} (fewer : ∀ path ∈ paths, path ∈ poll.paths)
    (invoked : List (CallbackId × CallbackArg)) :
    Polls { s.recordModData path modData with poll := some ⟨paths, none⟩, invoked := invoked } where
  cobs := by
    intro other fileData found
    rw [State.recordModData, lookup_setModData] at found
    split at found
    · rename_i same
      obtain ⟨old, isOld, rfl⟩ := Option.map_eq_some_iff.mp found
      subst same
      rw [polls.cobs other old isOld]
    · exact polls.cobs other fileData found
  paths := by
    intro other isOther file member
    cases isOther
    exact mem_setModData.mpr (polls.paths poll isPoll file (fewer file member))
  triggered := by
    intro other file isOther isTriggered
    cases isOther
    cases isTriggered

theorem step {op : Op} (polls : Polls s) (taken : MultiFilePoller.step s op = .ok s') : Polls s' := by
  cases moves_of_step taken with
  | registerPath cbId cbPaths path paths inPollerThread isCall unlocked =>
      refine ⟨fun other fileData found => ?_, fun poll isPoll other member => ?_, polls.triggered⟩
      · replace found := (lookup_addFileToTrack s.files inPollerThread path _ s.multi.poller other).symm.trans found
        split at found
        · rename_i same
          cases found
          rw [same.1]
          rfl
        · exact polls.cobs other fileData found
      · exact mem_addFileToTrack.mpr (.inr (polls.paths poll isPoll other member))
  | cancelLast cbId path paths pathsToErase inPollerThread isCall erased unlocked =>
      refine ⟨fun other fileData found => ?_, fun poll isPoll other member => ?_, polls.triggered⟩
      · replace found := (lookup_removeFileToTrack inPollerThread path s.multi.poller other).symm.trans found
        split at found
        · cases found
        · exact polls.cobs other fileData found
      · refine mem_removeFileToTrack.mpr ⟨fun both => ?_, polls.paths poll isPoll other member⟩
        cases isPoll.symm.trans (unlocked both.2)
  | checkFiles paths free all =>
      refine ⟨polls.cobs, fun poll isPoll path member => ?_, fun poll file isPoll isTriggered => ?_⟩
      · cases isPoll
        exact all.mem_iff.mp member
      · cases isPoll
        cases isTriggered
  | triggered path paths fileData triggeredPath isPoll found isCob =>
      refine ⟨polls.cobs, fun poll isNext other member => ?_, fun poll file isNext isTriggered => ?_⟩
      · cases isNext
        exact polls.paths _ isPoll other (List.mem_cons_of_mem _ member)
      · cases isNext
        cases isTriggered
        rw [cob_eq polls found] at isCob
        split at isCob
        · exact (Option.some.inj isCob).symm
        · cases isCob
  | untouched path paths fileData isPoll found noCob =>
      exact polls.recordModData path _ isPoll (fun other member => List.mem_cons_of_mem _ member) s.invoked
  | onFileUpdated paths file calls free isPoll called =>
      exact polls.recordModData file.fileName file.modData isPoll (fun other member => member) _
  | checkReturns => exact ⟨polls.cobs, (fun poll isPoll => by cases isPoll), (fun poll file isPoll => by cases isPoll)⟩
  | _ => exact ⟨polls.cobs, polls.paths, polls.triggered⟩

end Polls

structure Watches (cbId : CallbackId) (path : Path) (s : State) : Prop where
  isRegistered : ∃ detail, s.multi.idsToCallbacks.lookup cbId = some detail ∧ path ∈ detail.files
  stays : ∀ paths pathsToErase inPollerThread, s.call ≠ some (.cancelCallback cbId paths pathsToErase inPollerThread)

def triggeredPath (s : State) : Option Path := (s.poll.bind Poll.triggered).map Triggered.triggeredPath

structure Owes (cbId : CallbackId) (path : Path) (s : State) : Prop where
  watches : Watches cbId path s
  due : changed s path = true ∨ triggeredPath s = some path

def InPoll (path : Path) (s : State) : Prop :=
  triggeredPath s = some path ∨ ∃ poll, s.poll = some poll ∧ path ∈ poll.paths

def invocations (cbId : CallbackId) (s : State) : Nat := (s.invoked.map Prod.fst).count cbId

theorem Watches.listed (watches : Watches cbId path s) (registry : Registry s.multi s.call) :
    cbId ∈ s.multi.callbackIds path := by
  have counts := registry.counts cbId path
  have ongoing := registry.ongoing
  have isFiles : filesOf s.multi cbId s.call = registered s.multi cbId := by
    cases isCall : s.call with
    | none => rfl
    | some call =>
        rw [isCall] at ongoing
        cases call with
        | registerFiles newId cbPaths paths inPollerThread =>
            obtain ⟨detail, found, -⟩ := watches.isRegistered
            refine if_neg fun same => ?_
            rw [same, ongoing.1] at found
            cases found
        | cancelCallback oldId paths pathsToErase inPollerThread =>
            refine if_neg fun same => ?_
            subst same
            exact watches.stays paths pathsToErase inPollerThread isCall
  rw [isFiles] at counts
  rw [← List.count_pos_iff, counts, List.count_pos_iff]
  exact mem_registered.mpr watches.isRegistered

theorem Watches.step {op : Op} (watches : Watches cbId path s) (registry : Registry s.multi s.call)
    (stays : ∀ inPollerThread, op ≠ .cancelCallback cbId inPollerThread)
    (taken : MultiFilePoller.step s op = .ok s') : Watches cbId path s' := by
  obtain ⟨detail, found, member⟩ := watches.isRegistered
  cases moves_of_step taken with
  | registerFiles => exact ⟨watches.isRegistered, fun _ _ _ isCall => by cases isCall⟩
  | registerPath => exact ⟨watches.isRegistered, fun _ _ _ isCall => by cases isCall⟩
  | registerReturns newId cbPaths inPollerThread isCall =>
      refine ⟨⟨detail, ?_, member⟩, fun _ _ _ isCall => by cases isCall⟩
      rw [isCall] at registry
      have ne : cbId ≠ newId := by
        rintro rfl
        rw [registry.ongoing.1] at found
        cases found
      exact (lookup_emplace_of_ne ne _ _).trans found
  | cancelCallback oldId inPollerThread pos free isPos =>
      refine ⟨watches.isRegistered, fun _ _ _ isCall => ?_⟩
      cases isCall
      exact stays inPollerThread rfl
  | cancelPath oldId file paths pathsToErase inPollerThread callbackIds isCall erased more =>
      refine ⟨watches.isRegistered, fun _ _ _ isNext => ?_⟩
      cases isNext
      exact watches.stays _ _ _ isCall
  | cancelLast oldId file paths pathsToErase inPollerThread isCall erased unlocked =>
      refine ⟨watches.isRegistered, fun _ _ _ isNext => ?_⟩
      cases isNext
      exact watches.stays _ _ _ isCall
  | cancelReturns oldId pathsToErase inPollerThread isCall =>
      refine ⟨⟨detail, ?_, member⟩, fun _ _ _ isCall => by cases isCall⟩
      have ne : cbId ≠ oldId := by
        rintro rfl
        exact watches.stays _ _ _ isCall
      exact (AList.lookup_erase_ne ne).trans found
  | _ => exact ⟨watches.isRegistered, watches.stays⟩

theorem changed_congr {path : Path}
    (record : s'.multi.poller.fileDatum.lookup path = s.multi.poller.fileDatum.lookup path)
    (file : openFile s'.files path = openFile s.files path) : changed s' path = changed s path := by
  unfold changed getFileModData
  rw [record, file]

theorem openFile_update_of_ne {files : Files} {path other : Path} (ne : other ≠ path) (file : Option File) :
    openFile (Function.update files path file) other = openFile files other := by
  unfold openFile
  rw [Function.update_of_ne ne]

theorem changed_write {file : File} (nonempty : path ≠ []) (isTracked : path ∈ s.multi.poller.fileDatum)
    (newTime : ∀ fileData ∈ s.multi.poller.fileDatum.lookup path,
      fileData.modData.fileExists = true → fileData.modData.modTime ≠ file.modTime) :
    changed { s with files := Function.update s.files path (some file) } path = true := by
  obtain ⟨fileData, found⟩ := Option.isSome_iff_exists.mp (AList.lookup_isSome.mpr isTracked)
  have isFile : getFileModData (Function.update s.files path (some file)) path = ⟨true, file.modTime⟩ := by
    unfold getFileModData openFile
    rw [Function.update_self, if_neg (by simpa using nonempty)]
  have ne := newTime fileData found
  rw [changed, found]
  show fileTouchedCondInternal fileData.modData (getFileModData (Function.update s.files path (some file)) path) = true
  rw [isFile, fileTouchedCondInternal]
  cases existed : fileData.modData.fileExists with
  | false => rfl
  | true => simpa using Ne.symm (ne existed)

theorem Watches.write {file : File} (watches : Watches cbId path s) (registry : Registry s.multi s.call)
    (keeps : KeepsChange path s (.write path file)) (taken : MultiFilePoller.step s (.write path file) = .ok s') :
    changed s' path = true := by
  have listed := watches.listed registry
  cases moves_of_step taken with
  | write _ _ nonempty =>
      exact changed_write nonempty (registry.tracked path nonempty (List.ne_nil_of_mem listed)) (keeps rfl)

theorem changed_recordModData {file : Path} (ne : path ≠ file) (modData : FileModificationData) (poll : Option Poll)
    (invoked : List (CallbackId × CallbackArg)) :
    changed { s.recordModData file modData with poll := poll, invoked := invoked } path = changed s path := by
  refine changed_congr ?_ rfl
  rw [State.recordModData, lookup_setModData, if_neg ne]

theorem InPoll.of_cons {file : Path} {paths : List Path} (inPoll : InPoll path s)
    (isPoll : s.poll = some ⟨file :: paths, none⟩) (ne : file ≠ path) : path ∈ paths := by
  rcases inPoll with isTriggered | ⟨poll, isOther, member⟩
  · rw [triggeredPath, isPoll] at isTriggered
    cases isTriggered
  · cases isPoll.symm.trans isOther
    exact (List.mem_cons.mp member).resolve_left (Ne.symm ne)

theorem InPoll.not_returns (inPoll : InPoll path s) (taken : MultiFilePoller.step s .checkReturns = .ok s') : False := by
  cases moves_of_step taken with
  | checkReturns isPoll =>
      rcases inPoll with isTriggered | ⟨poll, isOther, member⟩
      · rw [triggeredPath, isPoll] at isTriggered
        cases isTriggered
      · cases isPoll.symm.trans isOther
        cases member

theorem Owes.of_same (owes : Owes cbId path s) (watches : Watches cbId path s') (samePoll : s'.poll = s.poll)
    (same : changed s' path = changed s path) : Owes cbId path s' ∧ (InPoll path s → InPoll path s') := by
  unfold InPoll
  rw [show triggeredPath s' = triggeredPath s by rw [triggeredPath, samePoll, triggeredPath], samePoll]
  refine ⟨⟨watches, ?_⟩, id⟩
  rw [same, show triggeredPath s' = triggeredPath s by rw [triggeredPath, samePoll, triggeredPath]]
  exact owes.due

theorem Owes.step {op : Op} (owes : Owes cbId path s) (registry : Registry s.multi s.call) (polls : Polls s)
    (keeps : KeepsChange path s op) (remains : op ≠ .remove path)
    (stays : ∀ inPollerThread, op ≠ .cancelCallback cbId inPollerThread)
    (taken : MultiFilePoller.step s op = .ok s') :
    (Owes cbId path s' ∧ (InPoll path s → InPoll path s')) ∨ invocations cbId s < invocations cbId s' := by
  have watches := owes.watches.step registry stays taken
  have listed := owes.watches.listed registry
  have isChanged (poll : Option Poll) (isPoll : s.poll = poll)
      (idle : (poll.bind Poll.triggered).map Triggered.triggeredPath ≠ some path) : changed s path = true :=
    owes.due.resolve_right (by rwa [triggeredPath, isPoll])
  cases moves_of_step taken with
  | write file info nonempty =>
      by_cases same : file = path
      · subst same
        exact .inl ⟨⟨watches, .inl (owes.watches.write registry keeps taken)⟩, id⟩
      · exact .inl (owes.of_same watches rfl (changed_congr rfl (openFile_update_of_ne (Ne.symm same) _)))
  | remove file =>
      have ne : path ≠ file := by
        rintro rfl
        exact remains rfl
      exact .inl (owes.of_same watches rfl (changed_congr rfl (openFile_update_of_ne ne none)))
  | registerPath newId cbPaths file paths inPollerThread isCall unlocked =>
      have other : ¬ (path = file ∧ locks inPollerThread file = true) := by
        rintro ⟨rfl, isLocked⟩
        have reset : resets s.call = some path := by rw [isCall, resets, if_pos isLocked]
        have unchanged := keeps reset
        rw [isChanged none (unlocked isLocked) (by simp)] at unchanged
        cases unchanged
      refine .inl (owes.of_same watches rfl (changed_congr ?_ rfl))
      exact (lookup_addFileToTrack ..).trans (if_neg other)
  | cancelLast oldId file paths pathsToErase inPollerThread isCall erased unlocked =>
      have ne : path ≠ file := by
        rintro rfl
        have notOld : cbId ≠ oldId := by
          rintro rfl
          exact owes.watches.stays _ _ _ isCall
        rw [isCall] at registry
        have kept := (registry.mem_cancelPath erased notOld s.multi.poller path).mpr listed
        rw [callbackIds_insert, if_pos rfl] at kept
        cases kept
      refine .inl (owes.of_same watches rfl (changed_congr ?_ rfl))
      exact (lookup_removeFileToTrack ..).trans (if_neg fun both => ne both.1)
  | checkFiles paths free all =>
      have before := isChanged none free (by simp)
      refine .inl ⟨⟨watches, .inl before⟩, fun inPoll => ?_⟩
      rcases inPoll with isTriggered | ⟨poll, isPoll, -⟩
      · rw [triggeredPath, free] at isTriggered
        cases isTriggered
      · cases free.symm.trans isPoll
  | triggered file paths fileData cob isPoll found isCob =>
      rw [cob_eq polls found] at isCob
      split at isCob
      · cases isCob
        by_cases same : file = path
        · subst same
          exact .inl ⟨⟨watches, .inr rfl⟩, fun _ => .inl rfl⟩
        · have before := isChanged _ isPoll (by simp)
          exact .inl ⟨⟨watches, .inl before⟩, fun inPoll => .inr ⟨_, rfl, inPoll.of_cons isPoll same⟩⟩
      · cases isCob
  | untouched file paths fileData isPoll found noCob =>
      have before := isChanged _ isPoll (by simp)
      have ne : file ≠ path := by
        rintro rfl
        rw [cob_eq polls found, before] at noCob
        cases noCob
      refine .inl ⟨⟨watches, .inl ?_⟩, fun inPoll => .inr ⟨_, rfl, inPoll.of_cons isPoll ne⟩⟩
      exact (changed_recordModData (Ne.symm ne) ..).trans before
  | onFileUpdated paths file calls free isPoll called =>
      by_cases same : file.triggeredPath = path
      · refine .inr ?_
        rw [free] at registry
        obtain ⟨others, isOthers, ids⟩ := registry.onFileUpdated_ok s.files file.triggeredPath
        cases called.symm.trans isOthers
        show _ < ((s.invoked ++ calls).map Prod.fst).count cbId
        rw [List.map_append, List.count_append, ids, same]
        exact Nat.lt_add_of_pos_right (List.count_pos_iff.mpr listed)
      · have before := isChanged _ isPoll (by simpa using same)
        have ne : path ≠ file.fileName := fun isFile => same ((polls.triggered _ file isPoll rfl).trans isFile.symm)
        refine .inl ⟨⟨watches, .inl ((changed_recordModData ne ..).trans before)⟩, fun inPoll => .inr ⟨_, rfl, ?_⟩⟩
        rcases inPoll with isTriggered | ⟨poll, isOther, member⟩
        · rw [triggeredPath, isPoll] at isTriggered
          exact absurd (Option.some.inj isTriggered) same
        · cases isPoll.symm.trans isOther
          exact member
  | checkReturns isPoll =>
      have before := isChanged _ isPoll (by simp)
      exact .inl ⟨⟨watches, .inl before⟩, fun inPoll => (inPoll.not_returns taken).elim⟩
  | _ => exact .inl ⟨⟨watches, owes.due⟩, id⟩

theorem Owes.begins {paths : List Path} (owes : Owes cbId path s) (taken : MultiFilePoller.step s (.checkFiles paths) = .ok s') :
    InPoll path s' := by
  cases moves_of_step taken with
  | checkFiles _ free all =>
      have isChanged := owes.due.resolve_right (by simp [triggeredPath, free])
      have isTracked : path ∈ s.multi.poller.fileDatum := by
        rw [changed] at isChanged
        rw [← AList.lookup_isSome]
        cases found : s.multi.poller.fileDatum.lookup path with
        | none =>
            rw [found] at isChanged
            cases isChanged
        | some fileData => rfl
      exact .inr ⟨_, rfl, all.mem_iff.mpr isTracked⟩

theorem invocations_mono {op : Op} (cbId : CallbackId) (taken : step s op = .ok s') :
    invocations cbId s ≤ invocations cbId s' := by
  cases moves_of_step taken with
  | onFileUpdated paths file calls free isPoll called =>
      show _ ≤ ((s.invoked ++ calls).map Prod.fst).count cbId
      rw [List.map_append, List.count_append]
      exact Nat.le_add_right ..
  | _ => exact Nat.le_refl _

theorem invocations_mono_run {ops : List Op} (cbId : CallbackId) (done : run s ops = .ok s') :
    invocations cbId s ≤ invocations cbId s' :=
  run_invariant_all (I := fun s' => invocations cbId s ≤ invocations cbId s')
    (fun _ _ _ le taken => Nat.le_trans le (invocations_mono cbId taken)) (Nat.le_refl _) done

structure Sound (s : State) : Prop where
  registry : Registry s.multi s.call
  polls : Polls s

theorem Sound.step {op : Op} (sound : Sound s) (registers : Registers s op) (taken : step s op = .ok s') : Sound s' :=
  ⟨sound.registry.step registers taken, sound.polls.step taken⟩

theorem new_sound (files : Files) : Sound { files } :=
  ⟨new_registry, ⟨(fun path fileData found => by cases found), (fun poll isPoll => by cases isPoll),
    (fun poll file isPoll => by cases isPoll)⟩⟩

def Notices (path : Path) (s : State) (op : Op) : Prop := Registers s op ∧ KeepsChange path s op

instance (path : Path) (s : State) (op : Op) : Decidable (Notices path s op) := inferInstanceAs (Decidable (_ ∧ _))

theorem Owes.run {ops : List Op} (owes : Owes cbId path s) (sound : Sound s) (along : Along MultiFilePoller.step (Notices path) s ops)
    (each : ∀ op ∈ ops, op ≠ .remove path ∧ ∀ inPollerThread, op ≠ .cancelCallback cbId inPollerThread)
    (done : MultiFilePoller.run s ops = .ok s') :
    (Owes cbId path s' ∧ (InPoll path s → InPoll path s')) ∨ invocations cbId s < invocations cbId s' := by
  induction ops generalizing s with
  | nil =>
      cases done
      exact .inl ⟨owes, id⟩
  | cons op ops ih =>
      obtain ⟨next, taken, rest⟩ := run_cons.mp done
      obtain ⟨remains, stays⟩ := each op List.mem_cons_self
      rcases owes.step sound.registry sound.polls along.1.2 remains stays taken with ⟨owes, inPoll⟩ | called
      · have later := ih owes (sound.step along.1.1 taken) (along.2 next taken)
          (fun op member => each op (List.mem_cons_of_mem _ member)) rest
        exact later.imp (fun both => ⟨both.1, fun before => both.2 (inPoll before)⟩)
          (Nat.lt_of_le_of_lt (invocations_mono cbId taken))
      · exact .inr (Nat.lt_of_lt_of_le called (invocations_mono_run cbId rest))

theorem Owes.poll {middle during : List Op} {paths : List Path} (owes : Owes cbId path s) (sound : Sound s)
    (along : Along MultiFilePoller.step (Notices path) s (middle ++ .checkFiles paths :: (during ++ [.checkReturns])))
    (each : ∀ op ∈ middle ++ during, op ≠ .remove path ∧ ∀ inPollerThread, op ≠ .cancelCallback cbId inPollerThread)
    (done : MultiFilePoller.run s (middle ++ .checkFiles paths :: (during ++ [.checkReturns])) = .ok s') :
    invocations cbId s < invocations cbId s' := by
  obtain ⟨before, toPoll, rest⟩ := run_append.mp done
  have soundBefore : Sound before :=
    run_invariant (fun s op s' sound notices taken => Sound.step sound notices.1 taken) sound (along_append along) toPoll
  have alongPoll := along_after along toPoll
  rcases owes.run sound (along_append along) (fun op member => each op (List.mem_append_left _ member)) toPoll with
    ⟨owes, -⟩ | called
  · obtain ⟨begun, begins, rest⟩ := run_cons.mp rest
    have alongDuring := along_append (alongPoll.2 begun begins)
    obtain ⟨last, toLast, ends⟩ := run_append.mp rest
    obtain ⟨_, returns, -⟩ := run_cons.mp ends
    refine Nat.lt_of_le_of_lt (invocations_mono_run cbId toPoll) ?_
    rcases owes.step soundBefore.registry soundBefore.polls alongPoll.1.2 (by simp) (by simp) begins with ⟨begun, -⟩ | called
    · rcases begun.run (soundBefore.step alongPoll.1.1 begins) alongDuring
        (fun op member => each op (List.mem_append_right _ member)) toLast with ⟨-, inPoll⟩ | called
      · exact ((inPoll (owes.begins begins)).not_returns returns).elim
      · exact Nat.lt_of_le_of_lt (invocations_mono cbId begins)
          (Nat.lt_of_lt_of_le called (invocations_mono_run cbId ends))
    · exact Nat.lt_of_lt_of_le called (invocations_mono_run cbId rest)
  · exact Nat.lt_of_lt_of_le called (invocations_mono_run cbId rest)

def nextOp (poll : Poll) : Op :=
  if poll.triggered.isSome then .onFileUpdated else if poll.paths.isEmpty then .checkReturns else .checkFile

def left : Option Poll → Nat
  | none => 0
  | some poll => 2 * poll.paths.length + poll.triggered.toList.length + 1

theorem poll_goes_on (sound : Sound s) (free : s.call = none) {poll : Poll} (isPoll : s.poll = some poll) :
    ∃ s', step s (nextOp poll) = .ok s' ∧ left s'.poll < left s.poll := by
  obtain ⟨paths, triggered⟩ := poll
  cases triggered with
  | some file =>
      have registry := sound.registry
      rw [free] at registry
      obtain ⟨calls, called, -⟩ := registry.onFileUpdated_ok s.files file.triggeredPath
      refine ⟨{ s.recordModData file.fileName file.modData with poll := some ⟨paths, none⟩, invoked := s.invoked ++ calls },
        ?_, ?_⟩
      · show s.onFileUpdated = _
        rw [State.onFileUpdated, isPoll]
        dsimp only
        rw [free, called]
        rfl
      · rw [isPoll]
        simp [left]
  | none =>
      cases paths with
      | nil =>
          refine ⟨{ s with poll := none }, ?_, ?_⟩
          · show s.checkReturns = _
            rw [State.checkReturns, isPoll]
          · rw [isPoll]
            simp [left]
      | cons path paths =>
          have isTracked := sound.polls.paths _ isPoll path List.mem_cons_self
          obtain ⟨fileData, found⟩ := Option.isSome_iff_exists.mp (AList.lookup_isSome.mpr isTracked)
          cases isCob : fileData.cob (getFileModData s.files path) with
          | none =>
              refine ⟨{ s.recordModData path (getFileModData s.files path) with poll := some ⟨paths, none⟩ }, ?_, ?_⟩
              · show s.checkFile = _
                rw [State.checkFile, isPoll]
                dsimp only
                rw [found]
                dsimp only
                rw [isCob]
              · rw [isPoll]
                simp [left]
          | some triggeredPath =>
              refine ⟨{ s with poll := some ⟨paths, some ⟨path, triggeredPath, getFileModData s.files path⟩⟩ }, ?_, ?_⟩
              · show s.checkFile = _
                rw [State.checkFile, isPoll]
                dsimp only
                rw [found]
                dsimp only
                rw [isCob]
              · rw [isPoll]
                simp [left]
                omega

theorem apart_step {op : Op} (apart : s.poll = none ∨ s.call = none) (keeps : Apart s op)
    (taken : step s op = .ok s') : s'.poll = none ∨ s'.call = none := by
  cases moves_of_step taken with
  | registerFiles => exact .inl keeps
  | registerPath newId cbPaths file paths inPollerThread isCall =>
      exact .inl (apart.resolve_right fun free => by cases free.symm.trans isCall)
  | registerReturns => exact .inr rfl
  | cancelCallback => exact .inl keeps
  | cancelPath oldId file paths pathsToErase inPollerThread callbackIds isCall =>
      exact .inl (apart.resolve_right fun free => by cases free.symm.trans isCall)
  | cancelLast oldId file paths pathsToErase inPollerThread isCall =>
      exact .inl (apart.resolve_right fun free => by cases free.symm.trans isCall)
  | cancelReturns => exact .inr rfl
  | checkFiles => exact .inr keeps
  | triggered file paths fileData cob isPoll => exact .inr (apart.resolve_left fun free => by cases free.symm.trans isPoll)
  | untouched file paths fileData isPoll => exact .inr (apart.resolve_left fun free => by cases free.symm.trans isPoll)
  | onFileUpdated paths file calls free => exact .inr free
  | checkReturns => exact .inl rfl
  | _ => exact apart

/-- A callback that stays registered on a file is called for a change of it by the end of the next poll that begins, by
that poll itself if none is under way at the change, if no new modification time is the recorded one and the file is not
registered again before. No step of a poll is blocked, if no call overlaps it. -/
theorem changes_reach_callbacks (files : Files) (path : Path) (ops : List Op)
    (along : Along step (Notices path) { files } ops) :
    (∀ cbId before file middle paths during s s',
      ops = before ++ .write path file :: (middle ++ .checkFiles paths :: (during ++ [.checkReturns])) →
      run { files } before = .ok s → Watches cbId path s → run { files } ops = .ok s' →
      (∀ op ∈ middle ++ during, op ≠ .remove path ∧ ∀ inPollerThread, op ≠ .cancelCallback cbId inPollerThread) →
      invocations cbId s < invocations cbId s') ∧
    (Along step Apart { files } ops → ∀ s poll, run { files } ops = .ok s → s.poll = some poll →
      ∃ s', step s (nextOp poll) = .ok s' ∧ left s'.poll < left s.poll) := by
  have soundAfter {front : List Op} {s : State} (frontAlong : Along step (Notices path) { files } front)
      (done : run { files } front = .ok s) : Sound s :=
    run_invariant (fun s op s' sound notices taken => Sound.step sound notices.1 taken) (new_sound files) frontAlong done
  constructor
  · rintro cbId before file middle paths during s s' rfl toStart watches done each
    have sound := soundAfter (along_append along) toStart
    obtain ⟨start, toStart', rest⟩ := run_append.mp done
    cases toStart.symm.trans toStart'
    obtain ⟨written, taken, toEnd⟩ := run_cons.mp rest
    have after := along_after along toStart
    have owes : Owes cbId path written :=
      ⟨watches.step sound.registry (by simp) taken, .inl (watches.write sound.registry after.1.2 taken)⟩
    exact Nat.lt_of_le_of_lt (invocations_mono cbId taken)
      (owes.poll (sound.step after.1.1 taken) (after.2 written taken) each toEnd)
  · intro apart s poll done isPoll
    have isApart : s.poll = none ∨ s.call = none :=
      run_invariant (fun s op s' holds keeps taken => apart_step holds keeps taken) (.inl rfl) apart done
    refine poll_goes_on (soundAfter along done) (isApart.resolve_left fun free => ?_) isPoll
    cases free.symm.trans isPoll

section examples

def file₅ : File := ⟨5, none⟩

def file₆ : File := ⟨6, none⟩

def creating : List Op :=
  registering [['a']] ++ .write ['a'] file₅ ::
    ([] ++ .checkFiles [['a']] :: ([.checkFile, .onFileUpdated] ++ [.checkReturns]))

theorem changes_reach_callbacks_created :
    ∃ s s', run noFiles (registering [['a']]) = .ok s ∧ run noFiles creating = .ok s' ∧
      invocations 1 s < invocations 1 s' := by
  have along : Along step (Notices ['a']) noFiles creating := by decide
  refine ⟨_, _, rfl, rfl, (changes_reach_callbacks _ ['a'] creating along).1 1 (registering [['a']]) file₅ []
    [['a']] [.checkFile, .onFileUpdated] _ _ rfl rfl ⟨⟨⟨[['a']]⟩, by decide, by decide⟩, by simp⟩ rfl (by decide)⟩

/-- A change is lost if the file is registered again before the poll, or if it gets back its modification time. A call
and a poll that overlap can block each other. -/
theorem change_not_noticed :
    (∃ s, run noFiles (registering [['a']] ++ .write ['a'] file₅ :: (registering [['a']] ++
        [.checkFiles [['a']], .checkFile, .checkReturns])) = .ok s ∧ s.invoked = []) ∧
    (∃ s, run { files := fun _ => some file₅ } (registering [['a']] ++
        [.write ['a'] file₆, .write ['a'] file₅, .checkFiles [['a']], .checkFile, .checkReturns]) = .ok s ∧
      s.invoked = []) ∧
    ∃ s, run noFiles (registering [['a']] ++
        [.write ['a'] file₅, .registerFiles [['b']] false, .checkFiles [['a']], .checkFile]) = .ok s ∧
      step s .onFileUpdated = .error .blocked ∧ step s .registerPath = .error .blocked :=
  ⟨⟨_, rfl, rfl⟩, ⟨_, rfl, rfl⟩, ⟨_, rfl, rfl, rfl⟩⟩

end examples

end Wangle.Proof.Util
