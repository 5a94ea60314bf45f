import Wangle.Client.LRUPersistentCache

/-!
# `FilePersistentCache` and `FilePersistenceLayer`

The process can end at every moment, and the next one makes a cache of the same file. One that ends within `persist`
leaves the file as one does that ends when `persist` has failed after the same writes, and a file that is unlinked
while it is written is gone as if it were unlinked then.
-/

namespace Wangle.Client

/-- `folly::json::serialize`, which can throw, and `folly::parseJson`. The text of an array ends with the bracket that
closes it, so that nothing shorter parses. -/
structure JsonFormat (K V : Type) where
  -- what is left of a value that is converted to a `folly::dynamic` and back
  convert : V → V
  serialize : Dynamic K V → Option (List UInt8)
  parseJson : List UInt8 → Option (Dynamic K V)
  convert_convert : ∀ v, convert (convert v) = convert v
  parseJson_serialize : ∀ {dynObj text}, serialize dynObj = some text →
    parseJson text = some (dynObj.map (Option.map (Prod.map id convert)))
  parseJson_front : ∀ {dynObj text front}, serialize dynObj = some text → front <+: text → front ≠ text →
    parseJson front = none

/-- With the arguments of the constructor. -/
structure FileSetup (K V : Type) extends JsonFormat K V where
  cacheCapacity : Nat
  nSyncRetries : Int := 3

/-- What the system calls of `persist` do. -/
inductive PersistCalls
  | openFails
  | opened (nWritten : Nat) (synced closed : Bool)

structure FilePersistentCache (K V : Type) where
  cache : LRUPersistentCache K V
  -- none if the file does not exist
  file : Option (List UInt8)

namespace FilePersistentCache
variable {K V : Type} (setup : FileSetup K V)

def persist (dynObj : Dynamic K V) (calls : PersistCalls) (file : Option (List UInt8)) : Bool × Option (List UInt8) :=
  match setup.serialize dynObj, calls with
  | some text, .opened nWritten synced closed =>
      (decide (text.length ≤ nWritten) && synced && closed, some (text.take nWritten))
  | _, _ => (false, file)

def load (file : Option (List UInt8)) : Option (Dynamic K V) := file.bind setup.parseJson

inductive Op (K V : Type)
  -- the calls of clients, and the steps of the sync thread other than `persist`
  | cache (op : LRUPersistentCache.Op K V)
  | persist (calls : PersistCalls)
  -- `FilePersistenceLayer::clear`, called by `clear`
  | unlink (success : Bool)
  | restart

/-- The persistence is set once, and its file is accessed by the other operations. -/
def InProcess : LRUPersistentCache.Op K V → Prop
  | .setPersistence _ | .persist _ | .clearPersistence _ => False
  | _ => True

instance : DecidablePred (InProcess (K := K) (V := V))
  | .setPersistence _ | .persist _ | .clearPersistence _ => isFalse id
  | .get _ | .put .. | .remove _ | .clear _ | .clearPick | .pick | .test | .convert _ | .record | .count
  | .giveUp => isTrue trivial

variable [DecidableEq K]

def new (file : Option (List UInt8)) : FilePersistentCache K V :=
  { cache := .new setup.cacheCapacity setup.nSyncRetries (some (load setup file)), file }

def step (s : FilePersistentCache K V) : Op K V → Except LRUPersistentCache.Stuck (FilePersistentCache K V)
  | .cache op =>
      if InProcess op then (s.cache.step op).map fun cache => { s with cache := cache } else .error .notEnabled
  | .persist calls => match s.cache.syncer with
      | .converted _ kvPairs _ =>
          let (persisted, file) := persist setup kvPairs calls s.file
          (s.cache.step (.persist (if persisted then .success else .failure (load setup file)))).map
            fun cache => { cache, file }
      | _ => .error .notEnabled
  | .unlink success => match s.cache.clears with
      | [] => .error .notEnabled
      | p :: clears =>
          if success then (s.cache.step (.clearPersistence p)).map fun cache => { cache, file := none }
          else .ok { s with cache := { s.cache with clears := clears } }
  | .restart => .ok (new setup s.file)

abbrev run (ops : List (Op K V)) : Except LRUPersistentCache.Stuck (FilePersistentCache K V) :=
  Transition.run (step setup) (new setup none) ops

end FilePersistentCache
end Wangle.Client
