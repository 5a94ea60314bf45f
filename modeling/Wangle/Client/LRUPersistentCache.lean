import Wangle.Client.LRUInMemoryCache
import Wangle.Transition.Run
import Mathlib.Logic.Function.Basic

/-!
# `LRUPersistentCache` and `CachePersistence`

The client threads and the sync thread take their steps in any order. The persistences are numbered in the order
in which they are given to the cache. `setPersistence` holds the lock of the persistence until the new one is
loaded, so that no other thread sees it before.
-/

namespace Wangle.Client

structure CachePersistence (K V : Type) where
  persistedVersion : Nat := 0
  stored : Option (Dynamic K V) := none

/-- Where the sync thread stands in an iteration of `sync`. -/
inductive Syncer (K V : Type)
  | waiting
  -- the persistence has been picked
  | picked (p : Option Nat)
  -- there are pending updates
  | changed (p : Nat)
  | converted (p : Nat) (kvPairs : Dynamic K V) (version : Nat)
  -- `persist` has returned true
  | persisted (p : Nat) (version : Nat)
  -- `syncNow` returns false, after an attempt to persist the version or without one
  | failed (p : Nat) (attempt : Option Nat)
  -- the retries have run out, and the version of the cache has been read
  | givingUp (p : Nat) (version : Nat)

inductive SyncEvent
  | stored (p version : Nat)
  | failed (p version : Nat)
  | marked (p version : Nat)
  deriving DecidableEq, Repr

structure LRUPersistentCache (K V : Type) where
  cache : LRUInMemoryCache K V
  nSyncRetries : Int
  persistences : Nat → CachePersistence K V := fun _ => {}
  given : Nat := 0
  persistence : Option Nat := none
  nSyncFailures : Nat := 0
  syncer : Syncer K V := .waiting
  -- calls of `clear` that have still to pick the persistence, and persistences that have still to be cleared
  clearing : Nat := 0
  clears : List Nat := []
  events : List SyncEvent := []
  gaveUp : Bool := false

namespace LRUPersistentCache
variable {K V : Type} [DecidableEq K]

def set (p : Nat) (persistence : CachePersistence K V) (s : LRUPersistentCache K V) : LRUPersistentCache K V :=
  { s with persistences := Function.update s.persistences p persistence }

def setPersistedVersion (p version : Nat) (s : LRUPersistentCache K V) : LRUPersistentCache K V :=
  s.set p { s.persistences p with persistedVersion := version }

/-- Returns 0 (`false`) if nothing can be loaded. -/
def load (p : Nat) (s : LRUPersistentCache K V) : Nat × LRUPersistentCache K V :=
  match (s.persistences p).stored with
  | none => (0, s)
  | some kvPairs =>
      let cache := s.cache.loadData kvPairs
      (cache.version, { s with cache := cache })

/-- A new persistence is given by what is stored in it. -/
def setPersistenceHelper (persistence : Option (Option (Dynamic K V))) (syncVersion : Bool)
    (s : LRUPersistentCache K V) : LRUPersistentCache K V :=
  match persistence with
  | none => { s with persistence := none }
  | some stored =>
      let p := s.given
      let s := { s.set p { stored } with persistence := some p, given := s.given + 1 }
      let (version, s) := s.load p
      if syncVersion then s.setPersistedVersion p version else s

def new (capacity : Nat) (nSyncRetries : Int) (persistence : Option (Option (Dynamic K V))) : LRUPersistentCache K V :=
  let s : LRUPersistentCache K V := { cache := .new capacity, nSyncRetries }
  match persistence with
  | none => s
  | some stored => s.setPersistenceHelper (some stored) true

def hasPendingUpdates (s : LRUPersistentCache K V) : Bool :=
  match s.persistence with
  | none => false
  | some p => s.cache.hasChangedSince (s.persistences p).persistedVersion

inductive PersistOutcome (K V : Type)
  | success
  -- with what is stored then
  | failure (stored : Option (Dynamic K V))

inductive Op (K V : Type)
  | get (k : K)
  | put (k : K) (v : V)
  | remove (k : K)
  | setPersistence (persistence : Option (Option (Dynamic K V)))
  | clear (clearPersistence : Bool)
  -- `clear` picks the persistence
  | clearPick
  -- `clear` clears the persistence that it has picked
  | clearPersistence (p : Nat)
  -- the steps of the sync thread
  | pick
  | test
  | convert (success : Bool)
  | persist (outcome : PersistOutcome K V)
  | record
  | count
  | giveUp

inductive Stuck
  | notEnabled
  deriving DecidableEq, Repr

def synced (s : LRUPersistentCache K V) : LRUPersistentCache K V :=
  { s with syncer := .waiting, nSyncFailures := 0 }

def step (s : LRUPersistentCache K V) : Op K V → Except Stuck (LRUPersistentCache K V)
  | .get k => .ok { s with cache := (s.cache.get k).2 }
  | .put k v => .ok { s with cache := s.cache.put k v }
  | .remove k => .ok { s with cache := s.cache.remove k }
  | .setPersistence persistence => .ok (s.setPersistenceHelper persistence false)
  | .clear clearPersistence =>
      .ok { s with cache := s.cache.clear, clearing := if clearPersistence then s.clearing + 1 else s.clearing }
  | .clearPick => match s.clearing with
      | 0 => .error .notEnabled
      | clearing + 1 => .ok { s with clearing := clearing, clears := s.persistence.toList ++ s.clears }
  | .clearPersistence p =>
      if p ∈ s.clears then
        .ok { s.set p { s.persistences p with stored := none } with clears := s.clears.erase p }
      else .error .notEnabled
  | .pick => match s.syncer with
      | .waiting => .ok { s with syncer := .picked s.persistence }
      | _ => .error .notEnabled
  | .test => match s.syncer with
      | .picked none => .ok s.synced
      | .picked (some p) =>
          if s.cache.hasChangedSince (s.persistences p).persistedVersion then .ok { s with syncer := .changed p }
          else .ok s.synced
      | _ => .error .notEnabled
  | .convert success => match s.syncer with
      | .changed p =>
          if success then
            let (kvPairs, version) := s.cache.convertToKeyValuePairs
            .ok { s with syncer := .converted p kvPairs version }
          else .ok { s with syncer := .failed p none }
      | _ => .error .notEnabled
  | .persist outcome => match s.syncer with
      | .converted p kvPairs version => match outcome with
          | .success =>
              .ok { s.set p { s.persistences p with stored := some kvPairs } with
                syncer := .persisted p version, events := s.events ++ [.stored p version] }
          | .failure stored =>
              .ok { s.set p { s.persistences p with stored := stored } with
                syncer := .failed p (some version), events := s.events ++ [.failed p version] }
      | _ => .error .notEnabled
  | .record => match s.syncer with
      | .persisted p version =>
          .ok { (s.setPersistedVersion p version).synced with events := s.events ++ [.marked p version] }
      | _ => .error .notEnabled
  | .count => match s.syncer with
      | .failed p _ =>
          if s.nSyncFailures + 1 = s.nSyncRetries then
            .ok { s with nSyncFailures := s.nSyncFailures + 1, syncer := .givingUp p s.cache.version }
          else .ok { s with nSyncFailures := s.nSyncFailures + 1, syncer := .waiting }
      | _ => .error .notEnabled
  | .giveUp => match s.syncer with
      | .givingUp p version =>
          .ok { (s.setPersistedVersion p version).synced with
            events := s.events ++ [.marked p version], gaveUp := true }
      | _ => .error .notEnabled

abbrev run (s : LRUPersistentCache K V) (ops : List (Op K V)) : Except Stuck (LRUPersistentCache K V) :=
  Transition.run step s ops

end LRUPersistentCache
end Wangle.Client
