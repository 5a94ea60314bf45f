import Wangle.Client.LRUPersistentCache

/-!
# The end of `LRUPersistentCache::sync`

The destructor sets `stopSyncer_` under the mutex that the sync thread holds except while it waits, and then joins the
thread.
-/

namespace Wangle.Client

structure Destruction (K V : Type) where
  cache : LRUPersistentCache K V
  stopSyncer : Bool := false
  -- the loop has found in this iteration that it cannot stop yet
  goesOn : Bool := false
  -- `sync` has returned, and so does the destructor
  returned : Bool := false
  -- that have begun since `stopSyncer_` was set
  iterations : Nat := 0

namespace Destruction
open LRUPersistentCache (Stuck)
variable {K V : Type} [DecidableEq K]

inductive Op (K V : Type)
  | cache (op : LRUPersistentCache.Op K V)
  -- the destructor
  | stop
  -- what the loop tests once `stopSyncer_` is set
  | testStopped

def bySyncer : LRUPersistentCache.Op K V → Bool
  | .pick | .test | .convert _ | .persist _ | .record | .count | .giveUp => true
  | .get _ | .put .. | .remove _ | .setPersistence _ | .clear _ | .clearPick | .clearPersistence _ => false

def testStopped (s : Destruction K V) : Except Stuck (Destruction K V) :=
  match s.cache.syncer with
  | .picked persistence =>
      if s.returned || !s.stopSyncer || s.goesOn then .error .notEnabled
      else if persistence.any fun p => s.cache.cache.hasChangedSince (s.cache.persistences p).persistedVersion then
        .ok { s with goesOn := true }
      else .ok { s with returned := true }
  | _ => .error .notEnabled

def step (s : Destruction K V) : Op K V → Except Stuck (Destruction K V)
  | .stop => match s.cache.syncer with
      | .waiting => .ok { s with stopSyncer := true }
      | _ => .error .notEnabled
  | .testStopped => s.testStopped
  | .cache .pick =>
      if s.returned then .error .notEnabled
      else (s.cache.step .pick).map fun cache =>
        { s with cache, goesOn := false, iterations := if s.stopSyncer then s.iterations + 1 else s.iterations }
  | .cache .test =>
      if s.returned || (s.stopSyncer && !s.goesOn) then .error .notEnabled
      else (s.cache.step .test).map fun cache => { s with cache }
  | .cache op =>
      if s.returned && bySyncer op then .error .notEnabled
      else (s.cache.step op).map fun cache => { s with cache }

abbrev run (s : Destruction K V) (ops : List (Op K V)) : Except Stuck (Destruction K V) := Transition.run step s ops

end Destruction
end Wangle.Client
