import Wangle.Util.MultiFilePoller

/-!
# What a `MultiFilePoller` does in one step
-/

namespace Wangle.Proof.Util
open Wangle.Util Wangle.Keyed FilePoller MultiFilePoller

def withCall (multi : MultiFilePoller) (call : Option Call) (s : State) : State := { s with multi := multi, call := call }

def withId (cbId : CallbackId) (m : MultiFilePoller) : MultiFilePoller := { m with lastCallbackId := cbId }

def withCallback (cbId : CallbackId) (cbPaths : List Path) (m : MultiFilePoller) : MultiFilePoller :=
  { m with idsToCallbacks := emplace cbId ⟨cbPaths⟩ m.idsToCallbacks }

def withoutCallback (cbId : CallbackId) (m : MultiFilePoller) : MultiFilePoller :=
  { m with idsToCallbacks := m.idsToCallbacks.erase cbId }

inductive Moves (s : State) : Op → State → Prop
  | write (path : Path) (file : File) (nonempty : path ≠ []) :
      Moves s (.write path file) { s with files := Function.update s.files path (some file) }
  | remove (path : Path) : Moves s (.remove path) { s with files := Function.update s.files path none }
  | registerThrows (paths : List Path) (inPollerThread : Bool) : Moves s (.registerFiles paths inPollerThread) s
  | registerFiles (paths : List Path) (inPollerThread : Bool) (cbId : CallbackId) (free : s.call = none)
      (unused : s.multi.idsToCallbacks.lookup cbId = none) :
      Moves s (.registerFiles paths inPollerThread)
        (withCall (withId cbId s.multi) (some (.registerFiles cbId [] paths inPollerThread)) s)
  | registerPath (cbId : CallbackId) (cbPaths : List Path) (path : Path) (paths : List Path) (inPollerThread : Bool)
      (isCall : s.call = some (.registerFiles cbId cbPaths (path :: paths) inPollerThread))
      (unlocked : locks inPollerThread path = true → s.poll = none) :
      Moves s .registerPath (withCall (s.multi.registerPath s.files inPollerThread cbId path)
        (some (.registerFiles cbId (cbPaths ++ [path]) paths inPollerThread)) s)
  | registerReturns (cbId : CallbackId) (cbPaths : List Path) (inPollerThread : Bool)
      (isCall : s.call = some (.registerFiles cbId cbPaths [] inPollerThread)) :
      Moves s .registerReturns (withCall (withCallback cbId cbPaths s.multi) none s)
  | cancelThrows (cbId : CallbackId) (inPollerThread : Bool) : Moves s (.cancelCallback cbId inPollerThread) s
  | cancelCallback (cbId : CallbackId) (inPollerThread : Bool) (pos : CallbackDetail) (free : s.call = none)
      (found : s.multi.idsToCallbacks.lookup cbId = some pos) :
      Moves s (.cancelCallback cbId inPollerThread)
        (withCall s.multi (some (.cancelCallback cbId pos.files [] inPollerThread)) s)
  | cancelPath (cbId : CallbackId) (path : Path) (paths pathsToErase : List Path) (inPollerThread : Bool)
      (callbackIds : List CallbackId)
      (isCall : s.call = some (.cancelCallback cbId (path :: paths) pathsToErase inPollerThread))
      (erased : eraseRemoved cbId (s.multi.callbackIds path) = .ok callbackIds) (more : callbackIds ≠ []) :
      Moves s .cancelPath (withCall (s.multi.setCallbackIds path callbackIds)
        (some (.cancelCallback cbId paths pathsToErase inPollerThread)) s)
  | cancelLast (cbId : CallbackId) (path : Path) (paths pathsToErase : List Path) (inPollerThread : Bool)
      (isCall : s.call = some (.cancelCallback cbId (path :: paths) pathsToErase inPollerThread))
      (erased : eraseRemoved cbId (s.multi.callbackIds path) = .ok [])
      (unlocked : locks inPollerThread path = true → s.poll = none) :
      Moves s .cancelPath (withCall ((s.multi.setCallbackIds path []).removeFileToTrack inPollerThread path)
        (some (.cancelCallback cbId paths (pathsToErase ++ [path]) inPollerThread)) s)
  | cancelReturns (cbId : CallbackId) (pathsToErase : List Path) (inPollerThread : Bool)
      (isCall : s.call = some (.cancelCallback cbId [] pathsToErase inPollerThread)) :
      Moves s .cancelReturns (withCall ((withoutCallback cbId s.multi).erasePaths pathsToErase) none s)
  | checkFiles (paths : List Path) (free : s.poll = none) (all : paths.Perm s.multi.poller.fileDatum.keys) :
      Moves s (.checkFiles paths) { s with poll := some { paths := paths } }
  | triggered (path : Path) (paths : List Path) (fileData : FileData Path) (triggeredPath : Path)
      (isPoll : s.poll = some ⟨path :: paths, none⟩) (found : s.multi.poller.fileDatum.lookup path = some fileData)
      (isCob : fileData.cob (getFileModData s.files path) = some triggeredPath) :
      Moves s .checkFile { s with poll := some ⟨paths, some ⟨path, triggeredPath, getFileModData s.files path⟩⟩ }
  | untouched (path : Path) (paths : List Path) (fileData : FileData Path) (isPoll : s.poll = some ⟨path :: paths, none⟩)
      (found : s.multi.poller.fileDatum.lookup path = some fileData)
      (noCob : fileData.cob (getFileModData s.files path) = none) :
      Moves s .checkFile { s.recordModData path (getFileModData s.files path) with poll := some ⟨paths, none⟩ }
  | onFileUpdated (paths : List Path) (file : Triggered) (calls : List (CallbackId × CallbackArg)) (free : s.call = none)
      (isPoll : s.poll = some ⟨paths, some file⟩) (called : s.multi.onFileUpdated s.files file.triggeredPath = .ok calls) :
      Moves s .onFileUpdated
        { s.recordModData file.fileName file.modData with poll := some ⟨paths, none⟩, invoked := s.invoked ++ calls }
  | checkReturns (isPoll : s.poll = some ⟨[], none⟩) : Moves s .checkReturns { s with poll := none }

variable {s s' : State}

theorem nextUnused_unused {idsToCallbacks : Map CallbackId CallbackDetail} {left : Nat} {ret cbId : CallbackId}
    (isNext : nextUnused idsToCallbacks left ret = some cbId) : idsToCallbacks.lookup cbId = none := by
  induction left generalizing ret with
  | zero => cases isNext
  | succ left ih =>
      rw [nextUnused] at isNext
      split at isNext
      · rename_i unused
        cases isNext
        exact Option.isNone_iff_eq_none.mp unused
      · exact ih isNext

theorem write_moves {path : Path} {file : File} (taken : s.write path file = .ok s') : Moves s (.write path file) s' := by
  unfold State.write at taken
  split at taken
  · cases taken
  · rename_i nonempty
    cases taken
    exact .write path file (by simpa using nonempty)

theorem registerFiles_moves {paths : List Path} {inPollerThread : Bool}
    (taken : s.registerFiles paths inPollerThread = .ok s') : Moves s (.registerFiles paths inPollerThread) s' := by
  unfold State.registerFiles at taken
  split at taken
  · cases taken
    exact .registerThrows paths inPollerThread
  · split at taken
    · cases taken
    · rename_i free
      split at taken
      · cases taken
        exact .registerThrows paths inPollerThread
      · rename_i cbId isNext
        cases taken
        exact .registerFiles paths inPollerThread cbId (by simpa using free) (nextUnused_unused isNext)

theorem unlocked_of_not {locked : Bool} {poll : Option Poll} (notBoth : ¬ (locked && poll.isSome) = true) :
    locked = true → poll = none := by
  intro isLocked
  simpa [isLocked] using notBoth

theorem registerPath_moves (taken : s.registerPath = .ok s') : Moves s .registerPath s' := by
  unfold State.registerPath at taken
  split at taken
  · rename_i cbId cbPaths path paths inPollerThread isCall
    split at taken
    · cases taken
    · rename_i unlocked
      cases taken
      exact .registerPath cbId cbPaths path paths inPollerThread isCall (unlocked_of_not unlocked)
  · cases taken

theorem registerReturns_moves (taken : s.registerReturns = .ok s') : Moves s .registerReturns s' := by
  unfold State.registerReturns at taken
  split at taken
  · rename_i cbId cbPaths inPollerThread isCall
    cases taken
    exact .registerReturns cbId cbPaths inPollerThread isCall
  · cases taken

theorem cancelCallback_moves {cbId : CallbackId} {inPollerThread : Bool}
    (taken : s.cancelCallback cbId inPollerThread = .ok s') : Moves s (.cancelCallback cbId inPollerThread) s' := by
  unfold State.cancelCallback at taken
  split at taken
  · cases taken
  · rename_i free
    split at taken
    · cases taken
      exact .cancelThrows cbId inPollerThread
    · rename_i pos found
      cases taken
      exact .cancelCallback cbId inPollerThread pos (by simpa using free) found

theorem cancelPath_moves (taken : s.cancelPath = .ok s') : Moves s .cancelPath s' := by
  unfold State.cancelPath at taken
  split at taken
  · rename_i cbId path paths pathsToErase inPollerThread isCall
    split at taken
    · cases taken
    · rename_i callbackIds erased
      dsimp only at taken
      split at taken
      · rename_i isEmpty
        rw [List.isEmpty_iff] at isEmpty
        subst isEmpty
        split at taken
        · cases taken
        · rename_i unlocked
          cases taken
          exact .cancelLast cbId path paths pathsToErase inPollerThread isCall erased (unlocked_of_not unlocked)
      · rename_i more
        cases taken
        exact .cancelPath cbId path paths pathsToErase inPollerThread callbackIds isCall erased (by simpa using more)
  · cases taken

theorem cancelReturns_moves (taken : s.cancelReturns = .ok s') : Moves s .cancelReturns s' := by
  unfold State.cancelReturns at taken
  split at taken
  · rename_i cbId pathsToErase inPollerThread isCall
    cases taken
    exact .cancelReturns cbId pathsToErase inPollerThread isCall
  · cases taken

theorem checkFiles_moves {paths : List Path} (taken : s.checkFiles paths = .ok s') : Moves s (.checkFiles paths) s' := by
  unfold State.checkFiles at taken
  split at taken
  · rename_i all
    rw [Bool.and_eq_true, Option.isNone_iff_eq_none, List.isPerm_iff] at all
    cases taken
    exact .checkFiles paths all.1 all.2
  · cases taken

theorem checkFile_moves (taken : s.checkFile = .ok s') : Moves s .checkFile s' := by
  unfold State.checkFile at taken
  split at taken
  · rename_i path paths isPoll
    split at taken
    · cases taken
    · rename_i fileData found
      dsimp only at taken
      split at taken
      · rename_i triggeredPath isCob
        cases taken
        exact .triggered path paths fileData triggeredPath isPoll found isCob
      · rename_i noCob
        cases taken
        exact .untouched path paths fileData isPoll found noCob
  · cases taken

theorem onFileUpdated_moves (taken : s.onFileUpdated = .ok s') : Moves s .onFileUpdated s' := by
  unfold State.onFileUpdated at taken
  split at taken
  · rename_i paths file isPoll
    split at taken
    · cases taken
    · rename_i free
      split at taken
      · cases taken
      · rename_i calls called
        cases taken
        exact .onFileUpdated paths file calls (by simpa using free) isPoll called
  · cases taken

theorem checkReturns_moves (taken : s.checkReturns = .ok s') : Moves s .checkReturns s' := by
  unfold State.checkReturns at taken
  split at taken
  · rename_i isPoll
    cases taken
    exact .checkReturns isPoll
  · cases taken

theorem moves_of_step {op : Op} (taken : step s op = .ok s') : Moves s op s' := by
  cases op with
  | write path file => exact write_moves taken
  | remove path =>
      cases taken
      exact .remove path
  | registerFiles paths inPollerThread => exact registerFiles_moves taken
  | registerPath => exact registerPath_moves taken
  | registerReturns => exact registerReturns_moves taken
  | cancelCallback cbId inPollerThread => exact cancelCallback_moves taken
  | cancelPath => exact cancelPath_moves taken
  | cancelReturns => exact cancelReturns_moves taken
  | checkFiles paths => exact checkFiles_moves taken
  | checkFile => exact checkFile_moves taken
  | onFileUpdated => exact onFileUpdated_moves taken
  | checkReturns => exact checkReturns_moves taken

end Wangle.Proof.Util
