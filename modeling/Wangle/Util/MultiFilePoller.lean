import Wangle.Util.FilePoller
import Wangle.Transition.Run
import Mathlib.Logic.Function.Basic

/-!
# `MultiFilePoller`

The poller with the files that it watches, the call that has `rwlock_` for writing, and the poll that has
`filesMutex_`. A call takes `filesMutex_` for one path at a time, and the poll takes `rwlock_` for one triggered path at
a time.
-/

namespace Wangle.Util
open Wangle.Keyed FilePoller

abbrev CallbackId := UInt64

abbrev CallbackArg := Map Path Contents

/-- The callback itself is known by its id. -/
structure CallbackDetail where
  files : List Path
  deriving DecidableEq, Repr

structure MultiFilePoller where
  lastCallbackId : CallbackId := 0
  pathsToCallbackIds : Map Path (List CallbackId) := ∅
  idsToCallbacks : Map CallbackId CallbackDetail := ∅
  -- a callback of the poller is known by the path that it passes to `onFileUpdated`
  poller : FilePoller Path := {}

namespace MultiFilePoller

inductive Fault
  -- `erase` of the end position of a vector
  | eraseAtEnd
  -- `find` of an id that has no callback
  | noCallback
  -- another thread has the lock
  | blocked
  -- not what the thread does next
  | impossible
  deriving DecidableEq, Repr

def nextUnused (idsToCallbacks : Map CallbackId CallbackDetail) : Nat → CallbackId → Option CallbackId
  | 0, _ => none
  | left + 1, ret =>
      if (idsToCallbacks.lookup (ret + 1)).isNone then some (ret + 1) else nextUnused idsToCallbacks left (ret + 1)

def getNextCallbackId (m : MultiFilePoller) : Option CallbackId :=
  nextUnused m.idsToCallbacks (UInt64.size - 1) m.lastCallbackId

def callbackIds (m : MultiFilePoller) (path : Path) : List CallbackId := (m.pathsToCallbackIds.lookup path).getD []

def registerPath (files : Files) (inPollerThread : Bool) (cbId : CallbackId) (path : Path) (m : MultiFilePoller) :
    MultiFilePoller :=
  { m with
    pathsToCallbackIds := m.pathsToCallbackIds.insert path (m.callbackIds path ++ [cbId])
    poller := m.poller.addFileToTrack files inPollerThread path { yCob := some path } }

/-- `callbackIds.erase(std::remove(...))`. What is left behind the kept ids is as before, and one id is erased. -/
def eraseRemoved (cbId : CallbackId) (callbackIds : List CallbackId) : Except Fault (List CallbackId) :=
  let kept := callbackIds.filter (· ≠ cbId)
  if kept.length = callbackIds.length then .error .eraseAtEnd else .ok (kept ++ callbackIds.drop (kept.length + 1))

def setCallbackIds (path : Path) (callbackIds : List CallbackId) (m : MultiFilePoller) : MultiFilePoller :=
  { m with pathsToCallbackIds := m.pathsToCallbackIds.insert path callbackIds }

def removeFileToTrack (inPollerThread : Bool) (path : Path) (m : MultiFilePoller) : MultiFilePoller :=
  { m with poller := m.poller.removeFileToTrack inPollerThread path }

def erasePaths (pathsToErase : List Path) (m : MultiFilePoller) : MultiFilePoller :=
  { m with pathsToCallbackIds := pathsToErase.foldl (fun paths path => paths.erase path) m.pathsToCallbackIds }

def readPath (files : Files) (path : Path) (filePathsToFileContents : CallbackArg) : CallbackArg :=
  match (openFile files path).bind File.data with
  | none => filePathsToFileContents
  | some data => emplace path data filePathsToFileContents

/-- What the callbacks of these ids are called with, one after the other. -/
def callbacks (files : Files) (idsToCallbacks : Map CallbackId CallbackDetail) :
    List CallbackId → CallbackArg → Except Fault (List (CallbackId × CallbackArg))
  | [], _ => .ok []
  | cbId :: cbIds, filePathsToFileContents => match idsToCallbacks.lookup cbId with
      | none => .error .noCallback
      | some cbEnt =>
          let newData := cbEnt.files.foldl (fun contents path => readPath files path contents) filePathsToFileContents
          (callbacks files idsToCallbacks cbIds newData).map ((cbId, newData) :: ·)

def onFileUpdated (files : Files) (triggeredPath : Path) (m : MultiFilePoller) :
    Except Fault (List (CallbackId × CallbackArg)) :=
  callbacks files m.idsToCallbacks (m.callbackIds triggeredPath) ∅

/-- A call that has `rwlock_` for writing, with the paths that are left. -/
inductive Call
  | registerFiles (cbId : CallbackId) (cbPaths paths : List Path) (inPollerThread : Bool)
  | cancelCallback (cbId : CallbackId) (paths pathsToErase : List Path) (inPollerThread : Bool)
  deriving DecidableEq, Repr

structure Triggered where
  fileName : Path
  triggeredPath : Path
  modData : FileModificationData
  deriving DecidableEq, Repr

structure Poll where
  paths : List Path
  triggered : Option Triggered := none
  deriving DecidableEq, Repr

structure State where
  files : Files
  multi : MultiFilePoller := {}
  call : Option Call := none
  poll : Option Poll := none
  invoked : List (CallbackId × CallbackArg) := []

inductive Op
  -- the file is created or modified
  | write (path : Path) (file : File)
  | remove (path : Path)
  | registerFiles (paths : List Path) (inPollerThread : Bool)
  | registerPath
  | registerReturns
  | cancelCallback (cbId : CallbackId) (inPollerThread : Bool)
  | cancelPath
  | cancelReturns
  -- in the order of `fileDatum_`
  | checkFiles (paths : List Path)
  | checkFile
  | onFileUpdated
  | checkReturns
  deriving DecidableEq, Repr

namespace State

/-- No file has the empty path. -/
def write (path : Path) (file : File) (s : State) : Except Fault State :=
  if path.isEmpty then .error .impossible else .ok { s with files := Function.update s.files path (some file) }

/-- `registerFiles` up to its loop. It does nothing if it throws. -/
def registerFiles (paths : List Path) (inPollerThread : Bool) (s : State) : Except Fault State :=
  if paths.isEmpty then .ok s
  else if s.call.isSome then .error .blocked
  else match s.multi.getNextCallbackId with
    | none => .ok s
    | some cbId => .ok { s with
        multi := { s.multi with lastCallbackId := cbId }
        call := some (.registerFiles cbId [] paths inPollerThread) }

def registerPath (s : State) : Except Fault State :=
  match s.call with
  | some (.registerFiles cbId cbPaths (path :: paths) inPollerThread) =>
      if locks inPollerThread path && s.poll.isSome then .error .blocked
      else .ok { s with
        multi := s.multi.registerPath s.files inPollerThread cbId path
        call := some (.registerFiles cbId (cbPaths ++ [path]) paths inPollerThread) }
  | _ => .error .impossible

def registerReturns (s : State) : Except Fault State :=
  match s.call with
  | some (.registerFiles cbId cbPaths [] _) => .ok { s with
      multi := { s.multi with idsToCallbacks := emplace cbId ⟨cbPaths⟩ s.multi.idsToCallbacks }
      call := none }
  | _ => .error .impossible

/-- `cancelCallback` up to its first loop. It does nothing if it throws. -/
def cancelCallback (cbId : CallbackId) (inPollerThread : Bool) (s : State) : Except Fault State :=
  if s.call.isSome then .error .blocked
  else match s.multi.idsToCallbacks.lookup cbId with
    | none => .ok s
    | some pos => .ok { s with call := some (.cancelCallback cbId pos.files [] inPollerThread) }

def cancelPath (s : State) : Except Fault State :=
  match s.call with
  | some (.cancelCallback cbId (path :: paths) pathsToErase inPollerThread) =>
      match eraseRemoved cbId (s.multi.callbackIds path) with
      | .error e => .error e
      | .ok callbackIds =>
          let multi := s.multi.setCallbackIds path callbackIds
          if callbackIds.isEmpty then
            if locks inPollerThread path && s.poll.isSome then .error .blocked
            else .ok { s with
              multi := multi.removeFileToTrack inPollerThread path
              call := some (.cancelCallback cbId paths (pathsToErase ++ [path]) inPollerThread) }
          else .ok { s with
            multi := multi
            call := some (.cancelCallback cbId paths pathsToErase inPollerThread) }
  | _ => .error .impossible

def cancelReturns (s : State) : Except Fault State :=
  match s.call with
  | some (.cancelCallback cbId [] pathsToErase _) =>
      let multi := { s.multi with idsToCallbacks := s.multi.idsToCallbacks.erase cbId }
      .ok { s with multi := multi.erasePaths pathsToErase, call := none }
  | _ => .error .impossible

def checkFiles (paths : List Path) (s : State) : Except Fault State :=
  if s.poll.isNone && paths.isPerm s.multi.poller.fileDatum.keys then .ok { s with poll := some { paths := paths } }
  else .error .impossible

def recordModData (path : Path) (modData : FileModificationData) (s : State) : State :=
  { s with multi := { s.multi with poller := s.multi.poller.setModData path modData } }

/-- The loop body of `checkFiles`, up to the callback. -/
def checkFile (s : State) : Except Fault State :=
  match s.poll with
  | some { paths := path :: paths, triggered := none } => match s.multi.poller.fileDatum.lookup path with
      | none => .error .impossible
      | some fileData =>
          let modData := getFileModData s.files path
          match fileData.cob modData with
          | some triggeredPath => .ok { s with poll := some ⟨paths, some ⟨path, triggeredPath, modData⟩⟩ }
          | none => .ok { s.recordModData path modData with poll := some ⟨paths, none⟩ }
  | _ => .error .impossible

/-- The callback, which needs `rwlock_`, and the rest of the loop body. -/
def onFileUpdated (s : State) : Except Fault State :=
  match s.poll with
  | some { paths := paths, triggered := some file } =>
      if s.call.isSome then .error .blocked
      else match s.multi.onFileUpdated s.files file.triggeredPath with
        | .error e => .error e
        | .ok calls => .ok { s.recordModData file.fileName file.modData with
            poll := some ⟨paths, none⟩
            invoked := s.invoked ++ calls }
  | _ => .error .impossible

def checkReturns (s : State) : Except Fault State :=
  match s.poll with
  | some { paths := [], triggered := none } => .ok { s with poll := none }
  | _ => .error .impossible

end State

def step (s : State) : Op → Except Fault State
  | .write path file => s.write path file
  | .remove path => .ok { s with files := Function.update s.files path none }
  | .registerFiles paths inPollerThread => s.registerFiles paths inPollerThread
  | .registerPath => s.registerPath
  | .registerReturns => s.registerReturns
  | .cancelCallback cbId inPollerThread => s.cancelCallback cbId inPollerThread
  | .cancelPath => s.cancelPath
  | .cancelReturns => s.cancelReturns
  | .checkFiles paths => s.checkFiles paths
  | .checkFile => s.checkFile
  | .onFileUpdated => s.onFileUpdated
  | .checkReturns => s.checkReturns

abbrev run (s : State) (ops : List Op) : Except Fault State := Transition.run step s ops

end MultiFilePoller
end Wangle.Util
