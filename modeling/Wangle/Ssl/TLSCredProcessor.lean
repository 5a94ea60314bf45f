import Wangle.Ssl.TLSTicketKeySeeds
import Wangle.Transition.Run
import Wangle.Util.FilePoller
import Mathlib.Logic.Function.Basic

/-!
# `TLSCredProcessor`

A processor, the files, and the callbacks that were called. A setter can be called in a callback, and then the poller
refuses to add and to remove files.
-/

namespace Wangle.Ssl
open Wangle.Util

/-- The `dynamic` that JSON is parsed to. -/
inductive JsonDynamic
  | null
  -- a string, a number or a truth value, as `asString` writes it
  | scalar (asString : String)
  | array (elements : List JsonDynamic)
  | object (fields : List (String × JsonDynamic))

/-- `none` is an exception. -/
def JsonDynamic.asString : JsonDynamic → Option String
  | .scalar asString => some asString
  | _ => none

namespace TLSCredProcessor

inductive Cob
  | ticketFileUpdated (ticketFile : Path)
  | certFileUpdated
  deriving DecidableEq, Repr

inductive Call
  | ticketCallback (callback : Nat) (seeds : TLSTicketKeySeeds)
  | certCallback (callback : Nat)
  deriving DecidableEq, Repr

inductive Stuck
  -- `cancelFunctionAndWait` in the function that it waits for
  | waitsForItself
  deriving DecidableEq, Repr

inductive Op
  | setTicketPathToWatch (inPollerThread : Bool) (ticketFile : Path)
  | setCertPathsToWatch (inPollerThread : Bool) (certFiles : List Path)
  | setPollInterval (inPollerThread : Bool)
  | addTicketCallback (callback : Nat)
  | addCertCallback (callback : Nat)
  | checkFiles
  -- somebody writes the file, or deletes it
  | write (path : Path) (file : Option File)
  deriving DecidableEq, Repr

def insertSeeds (keyConfig : JsonDynamic) (seedList : List String) : Option (List String) :=
  match keyConfig with
  | .array elements => (elements.mapM JsonDynamic.asString).map (seedList ++ ·)
  | _ => some seedList

def seedsOf (name : String) (fields : List (String × JsonDynamic)) : Option (List String) :=
  match fields.lookup name with
  | none => some []
  | some keyConfig => insertSeeds keyConfig []

def processTLSTickets (parseJson : Contents → Option JsonDynamic) (files : Files) (fileName : Path) :
    Option TLSTicketKeySeeds := do
  let file ← openFile files fileName
  let jsonData ← file.data
  match ← parseJson jsonData with
  | .object fields =>
      let oldSeeds ← seedsOf "old" fields
      let currentSeeds ← seedsOf "current" fields
      let newSeeds ← seedsOf "new" fields
      some { oldSeeds, currentSeeds, newSeeds }
  | _ => none

end TLSCredProcessor

structure TLSCredProcessor where
  poller : FilePoller TLSCredProcessor.Cob := {}
  ticketFile : Path := []
  certFiles : List Path := []
  ticketCallbacks : List Nat := []
  certCallbacks : List Nat := []
  files : Files
  calls : List TLSCredProcessor.Call := []

namespace TLSCredProcessor

def setTicketPathToWatch (inPollerThread : Bool) (ticketFile : Path) (p : TLSCredProcessor) : TLSCredProcessor :=
  let poller := if p.ticketFile.isEmpty then p.poller else p.poller.removeFileToTrack inPollerThread p.ticketFile
  let poller :=
    if ticketFile.isEmpty then poller
    else poller.addFileToTrack p.files inPollerThread ticketFile { yCob := some (.ticketFileUpdated ticketFile) }
  { p with poller, ticketFile }

def setCertPathsToWatch (inPollerThread : Bool) (certFiles : List Path) (p : TLSCredProcessor) : TLSCredProcessor :=
  let poller := p.certFiles.foldl (fun poller path => poller.removeFileToTrack inPollerThread path) p.poller
  let poller := certFiles.foldl
    (fun poller path => poller.addFileToTrack p.files inPollerThread path { yCob := some .certFileUpdated }) poller
  { p with poller, certFiles }

def setPollInterval (inPollerThread : Bool) (p : TLSCredProcessor) : Except Stuck TLSCredProcessor :=
  if inPollerThread then .error .waitsForItself
  else
    let p := { p with poller := {} }
    let p := p.setTicketPathToWatch inPollerThread p.ticketFile
    .ok (p.setCertPathsToWatch inPollerThread p.certFiles)

def updated (parseJson : Contents → Option JsonDynamic) (p : TLSCredProcessor) : Cob → List Call
  | .ticketFileUpdated ticketFile => match processTLSTickets parseJson p.files ticketFile with
      | none => []
      | some seeds => p.ticketCallbacks.map fun callback => .ticketCallback callback seeds
  | .certFileUpdated => p.certCallbacks.map .certCallback

def triggered (p : TLSCredProcessor) (path : Path) : List Cob :=
  ((p.poller.fileDatum.lookup path).bind (FilePoller.FileData.cob (getFileModData p.files path))).toList

def checkFile (parseJson : Contents → Option JsonDynamic) (p : TLSCredProcessor) (path : Path) : TLSCredProcessor :=
  { p with
    calls := p.calls ++ (p.triggered path).flatMap (p.updated parseJson)
    poller := p.poller.setModData path (getFileModData p.files path) }

def checkFiles (parseJson : Contents → Option JsonDynamic) (p : TLSCredProcessor) : TLSCredProcessor :=
  p.poller.fileDatum.keys.foldl (checkFile parseJson) p

def write (path : Path) (file : Option File) (p : TLSCredProcessor) : TLSCredProcessor :=
  { p with files := Function.update p.files path file }

def step (parseJson : Contents → Option JsonDynamic) (p : TLSCredProcessor) : Op → Except Stuck TLSCredProcessor
  | .setTicketPathToWatch inPollerThread ticketFile => .ok (p.setTicketPathToWatch inPollerThread ticketFile)
  | .setCertPathsToWatch inPollerThread certFiles => .ok (p.setCertPathsToWatch inPollerThread certFiles)
  | .setPollInterval inPollerThread => p.setPollInterval inPollerThread
  | .addTicketCallback callback => .ok { p with ticketCallbacks := p.ticketCallbacks ++ [callback] }
  | .addCertCallback callback => .ok { p with certCallbacks := p.certCallbacks ++ [callback] }
  | .checkFiles => .ok (p.checkFiles parseJson)
  | .write path file => .ok (p.write path file)

abbrev run (parseJson : Contents → Option JsonDynamic) (p : TLSCredProcessor) (ops : List Op) :
    Except Stuck TLSCredProcessor :=
  Transition.run (step parseJson) p ops

end TLSCredProcessor
end Wangle.Ssl
