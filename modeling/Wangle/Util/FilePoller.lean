import Wangle.Keyed.Insertions

/-!
# `FilePoller`
-/

namespace Wangle.Util
open Wangle.Keyed

abbrev Path := List Char

abbrev Contents := List UInt8

structure File where
  modTime : Int
  -- `none` if the file cannot be read
  data : Option Contents := none
  deriving DecidableEq, Repr

abbrev Files := Path → Option File

/-- No file has the empty path. -/
def openFile (files : Files) (path : Path) : Option File := if path.isEmpty then none else files path

structure FileModificationData where
  fileExists : Bool := false
  modTime : Int := 0
  deriving DecidableEq, Repr

def getFileModData (files : Files) (path : Path) : FileModificationData :=
  match openFile files path with
  | none => ⟨false, 0⟩
  | some info => ⟨true, info.modTime⟩

namespace FilePoller

/-- Of the previous modification and the last one. -/
abbrev Condition := FileModificationData → FileModificationData → Bool

def fileTouchedCondInternal : Condition := fun oldModData modData =>
  let fileStillExists := oldModData.fileExists && modData.fileExists
  let fileTouched := modData.modTime != oldModData.modTime
  let fileCreated := !oldModData.fileExists && modData.fileExists
  (fileStillExists && fileTouched) || fileCreated

structure FileData (Cob : Type) where
  yCob : Option Cob
  nCob : Option Cob := none
  condition : Condition := fileTouchedCondInternal
  modData : FileModificationData := {}

def FileData.cob {Cob : Type} (modData : FileModificationData) (fileData : FileData Cob) : Option Cob :=
  if fileData.condition fileData.modData modData && fileData.yCob.isSome then fileData.yCob else fileData.nCob

end FilePoller

structure FilePoller (Cob : Type) where
  fileDatum : Map Path (FilePoller.FileData Cob) := ∅

namespace FilePoller
variable {Cob : Type}

def initFileData (files : Files) (fName : Path) (fData : FileData Cob) : FileData Cob :=
  { fData with modData := getFileModData files fName }

/-- Whether `addFileToTrack` and `removeFileToTrack` get as far as `filesMutex_`. -/
def locks (inPollerThread : Bool) (fileName : Path) : Bool := !fileName.isEmpty && !inPollerThread

def addFileToTrack (files : Files) (inPollerThread : Bool) (fileName : Path) (fData : FileData Cob)
    (poller : FilePoller Cob) : FilePoller Cob :=
  if locks inPollerThread fileName then ⟨poller.fileDatum.insert fileName (initFileData files fileName fData)⟩ else poller

def removeFileToTrack (inPollerThread : Bool) (fileName : Path) (poller : FilePoller Cob) : FilePoller Cob :=
  if locks inPollerThread fileName then ⟨poller.fileDatum.erase fileName⟩ else poller

def setModData (fileName : Path) (modData : FileModificationData) (poller : FilePoller Cob) : FilePoller Cob :=
  match poller.fileDatum.lookup fileName with
  | none => poller
  | some fileData => ⟨poller.fileDatum.insert fileName { fileData with modData := modData }⟩

end FilePoller
end Wangle.Util
