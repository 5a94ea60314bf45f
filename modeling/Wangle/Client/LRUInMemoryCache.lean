import Wangle.Recency.CacheMap

/-!
# `LRUInMemoryCache`

`EvictingCacheMap` is a `CacheMap` that is iterated from the most to the least recently used entry. Keys and values
convert to a `folly::dynamic` and back. Each member function holds the lock throughout.
-/

namespace Wangle.Client
open Recency

/-- An array of pairs. An entry that does not convert to a key and a value is none. -/
abbrev Dynamic (K V : Type) := List (Option (K × V))

structure LRUInMemoryCache (K V : Type) where
  cache : CacheMap K V
  -- a `uint64_t` that no run is long enough to wrap
  version : Nat := 1

namespace LRUInMemoryCache
variable {K V : Type} [DecidableEq K]

def new (capacity : Nat) : LRUInMemoryCache K V := { cache := .empty capacity }

def get (k : K) (s : LRUInMemoryCache K V) : Option V × LRUInMemoryCache K V :=
  ((s.cache.find k).1, { s with cache := (s.cache.find k).2 })

def put (k : K) (v : V) (s : LRUInMemoryCache K V) : LRUInMemoryCache K V :=
  { cache := s.cache.set k v, version := s.version + 1 }

def remove (k : K) (s : LRUInMemoryCache K V) : LRUInMemoryCache K V :=
  if s.cache.contains k then { cache := s.cache.erase k, version := s.version + 1 } else s

def clear (s : LRUInMemoryCache K V) : LRUInMemoryCache K V :=
  if s.cache.entries.isEmpty then s else { cache := s.cache.clear, version := s.version + 1 }

def hasChangedSince (version : Nat) (s : LRUInMemoryCache K V) : Bool := s.version ≠ version

/-- The loop ends at an entry that does not convert. -/
def loadLoop : Dynamic K V → CacheMap K V → Bool → CacheMap K V × Bool
  | some kv :: rest, cache, _ => loadLoop rest (cache.set kv.1 kv.2) true
  | none :: _, cache, updated => (cache, updated)
  | [], cache, updated => (cache, updated)

def loadData (data : Dynamic K V) (s : LRUInMemoryCache K V) : LRUInMemoryCache K V :=
  let (cache, updated) := loadLoop data s.cache false
  { cache := cache, version := if updated then s.version + 1 else s.version }

def convertToKeyValuePairs (s : LRUInMemoryCache K V) : Dynamic K V × Nat :=
  (s.cache.entries.map some, s.version)

end LRUInMemoryCache
end Wangle.Client
