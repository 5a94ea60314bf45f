import Wangle.Recency.CullingMap
import Wangle.Ssl.TLSTicketKeyManager
import Mathlib.Logic.Function.Basic

/-!
# `SSLSessionCacheManager`

A manager on one thread, with the calls that are under way on its stack. `getAsync` and `restartSSLAccept` call other
code, which can call the manager before they return.
-/

namespace Wangle.Ssl
open Wangle.Recency

abbrev SessionId := Bytes
abbrev Session := Nat
abbrev SSLSocket := Nat

abbrev MIN_SESSION_ID_LENGTH := 16

inductive RefEvent
  -- a reference is passed to `storeSession`
  | stored (session : Session)
  | SSL_SESSION_free (session : Session)
  | SSL_SESSION_up_ref (session : Session)
  -- a reference is passed to the caller of `lookupSession` or to OpenSSL
  | returned (session : Session)
  deriving DecidableEq, Repr

/-- A value of the map can be null. -/
abbrev LocalSSLSessionCache := CullingMap SessionId (Option Session)

structure ShardedLocalSSLSessionCache (n_buckets : Nat) where
  caches : Fin n_buckets → LocalSSLSessionCache
  hash : SessionId → Fin n_buckets
  refs : List RefEvent := []

namespace ShardedLocalSSLSessionCache
variable {n_buckets : Nat}

def new (hash : SessionId → Fin n_buckets) (maxCacheSize cacheCullSize : Nat) : ShardedLocalSSLSessionCache n_buckets where
  caches _ := { maxSize := max 1 (maxCacheSize / n_buckets), clearSize := max 1 (cacheCullSize / n_buckets) }
  hash := hash

def record (events : List RefEvent) (cache : ShardedLocalSSLSessionCache n_buckets) : ShardedLocalSSLSessionCache n_buckets :=
  { cache with refs := cache.refs ++ events }

def setBucket (sessionId : SessionId) (bucket : LocalSSLSessionCache) (cache : ShardedLocalSSLSessionCache n_buckets) :
    ShardedLocalSSLSessionCache n_buckets :=
  { cache with caches := Function.update cache.caches (cache.hash sessionId) bucket }

def bucketOf (sessionId : SessionId) (cache : ShardedLocalSSLSessionCache n_buckets) : LocalSSLSessionCache :=
  cache.caches (cache.hash sessionId)

def lookupSession (sessionId : SessionId) (cache : ShardedLocalSSLSessionCache n_buckets) :
    Option Session × ShardedLocalSSLSessionCache n_buckets :=
  let found := (cache.bucketOf sessionId).find sessionId
  let session := found.1.join
  (session, (cache.setBucket sessionId found.2).record (session.toList.map .SSL_SESSION_up_ref))

def freeAll (sessions : List (Option Session)) : List RefEvent := sessions.filterMap (Option.map .SSL_SESSION_free)

def storeSession (sessionId : SessionId) (session : Option Session) (cache : ShardedLocalSSLSessionCache n_buckets) :
    ShardedLocalSSLSessionCache n_buckets :=
  let found := (cache.bucketOf sessionId).find sessionId
  let set := found.2.set sessionId session
  -- the map does not free the session that is overwritten, and the prune hook frees the evicted ones
  (cache.record (session.toList.map .stored ++ freeAll found.1.toList ++ freeAll (set.2.map Prod.snd))).setBucket
    sessionId set.1

def removeSession (sessionId : SessionId) (cache : ShardedLocalSSLSessionCache n_buckets) :
    ShardedLocalSSLSessionCache n_buckets :=
  cache.setBucket sessionId ((cache.bucketOf sessionId).erase sessionId)

inductive CacheOp
  | storeSession (sessionId : SessionId) (session : Option Session)
  | lookupSession (sessionId : SessionId)
  | removeSession (sessionId : SessionId)
  deriving DecidableEq, Repr

def CacheOp.sessionId : CacheOp → SessionId
  | .storeSession sessionId _ => sessionId
  | .lookupSession sessionId => sessionId
  | .removeSession sessionId => sessionId

def perform (cache : ShardedLocalSSLSessionCache n_buckets) : CacheOp → ShardedLocalSSLSessionCache n_buckets
  | .storeSession sessionId session => cache.storeSession sessionId session
  | .lookupSession sessionId => (cache.lookupSession sessionId).2
  | .removeSession sessionId => cache.removeSession sessionId

def evicted (cache : ShardedLocalSSLSessionCache n_buckets) : CacheOp → List (SessionId × Option Session)
  | .storeSession sessionId session => (((cache.bucketOf sessionId).find sessionId).2.set sessionId session).2
  | .lookupSession _ => []
  | .removeSession _ => []

def performAll (cache : ShardedLocalSSLSessionCache n_buckets) (ops : List CacheOp) :
    ShardedLocalSSLSessionCache n_buckets :=
  ops.foldl perform cache

/-- The rest of `restoreSession`, if the lookup succeeded. -/
def storeRestored (sessionId : SessionId) (cache : ShardedLocalSSLSessionCache n_buckets) :
    Option (Option Session) → ShardedLocalSSLSessionCache n_buckets
  | some session => cache.storeSession sessionId session
  | none => cache

end ShardedLocalSSLSessionCache

structure PendingLookup where
  request_in_progress : Bool := true
  session : Option Session := none
  waiters : List SSLSocket := []
  -- the number of the external lookup
  lookup : Nat
  deriving DecidableEq, Repr

structure CacheContext where
  sessionId : SessionId
  sslSocket : SSLSocket
  lookup : Nat
  deriving DecidableEq, Repr

/-- A call that has not returned yet. -/
inductive Frame
  -- `getSession` is in `getAsync`
  | getAsync (cacheCtx : CacheContext)
  -- `restartSSLAccept` of the manager is in that of a socket, and this waiter is next. If the lookup succeeded, then the
  -- restored session is stored afterwards.
  | restartSSLAccept (cacheCtx : CacheContext) (next : Nat) (restored : Option (Option Session))
  deriving DecidableEq, Repr

inductive SocketEvent
  -- `getSession` returns `SSL_SESSION_CB_WOULD_BLOCK` to the socket, which has joined the lookup
  | wouldBlock (lookup : Nat) (sslSocket : SSLSocket)
  | restartSSLAccept (lookup : Nat) (sslSocket : SSLSocket)
  deriving DecidableEq, Repr

structure SSLSessionCacheManager (n_buckets : Nat) where
  localCache : ShardedLocalSSLSessionCache n_buckets
  externalCache : Bool := true
  pendingLookups : SessionId → Option PendingLookup := fun _ => none
  -- the lookups that the provider has not completed
  outstanding : List CacheContext := []
  lookups : Nat := 0
  stack : List Frame := []
  events : List SocketEvent := []

/-- How the provider completes a lookup. The session is what `d2i_SSL_SESSION` makes of the value, null if the value is
malformed. -/
inductive Completion
  | onGetSuccess (session : Option Session)
  -- success with a buffer, which can be null
  | onGetSuccessBuf (valueBuf : Option (Option Session))
  | onGetFailure
  deriving DecidableEq, Repr

namespace SSLSessionCacheManager

inductive Fault
  -- the `CHECK` in `restartSSLAccept`
  | notPending
  -- an iterator to an entry that has been erased
  | dangling
  -- not a call that the environment can make now
  | impossible
  deriving DecidableEq, Repr

inductive Op
  | newSession (sessionId : SessionId) (session : Session)
  | removeSession (sessionId : SessionId)
  | getSession (sslSocket : SSLSocket) (sessionId : SessionId) (wantsLookup : Bool)
  | getAsyncReturns (res : Bool)
  | complete (cacheCtx : CacheContext) (completion : Completion)
  | restartReturns
  deriving DecidableEq, Repr

variable {n_buckets : Nat}

def newSession (sessionId : SessionId) (session : Session) (m : SSLSessionCacheManager n_buckets) :
    SSLSessionCacheManager n_buckets :=
  { m with localCache := m.localCache.storeSession sessionId (some session) }

def removeSession (sessionId : SessionId) (m : SSLSessionCacheManager n_buckets) : SSLSessionCacheManager n_buckets :=
  { m with localCache := m.localCache.removeSession sessionId }

def returnSession (session : Option Session) (m : SSLSessionCacheManager n_buckets) : SSLSessionCacheManager n_buckets :=
  { m with localCache := m.localCache.record (session.toList.map .returned) }

def setPending (sessionId : SessionId) (pending : Option PendingLookup) (m : SSLSessionCacheManager n_buckets) :
    SSLSessionCacheManager n_buckets :=
  { m with pendingLookups := Function.update m.pendingLookups sessionId pending }

def lookupCacheRecord (sessionId : SessionId) (sslSocket : SSLSocket) (m : SSLSessionCacheManager n_buckets) :
    SSLSessionCacheManager n_buckets :=
  let cacheCtx := { sessionId := sessionId, sslSocket := sslSocket, lookup := m.lookups }
  { m with
    lookups := m.lookups + 1
    outstanding := cacheCtx :: m.outstanding
    stack := .getAsync cacheCtx :: m.stack }

/-- What `getSession` does after a miss in the local cache, up to `getAsync` if it starts a lookup. -/
def getExternalSession (sslSocket : SSLSocket) (sessionId : SessionId) (m : SSLSessionCacheManager n_buckets) :
    SSLSessionCacheManager n_buckets :=
  match m.pendingLookups sessionId with
  | none => (m.setPending sessionId (some { lookup := m.lookups })).lookupCacheRecord sessionId sslSocket
  | some pending =>
      if pending.request_in_progress then
        let attached := { pending with waiters := pending.waiters ++ [sslSocket] }
        { m.setPending sessionId (some attached) with
          events := m.events ++ [.wouldBlock pending.lookup sslSocket] }
      else
        let m := { m with localCache := m.localCache.record (pending.session.toList.map .SSL_SESSION_up_ref) }
        m.returnSession pending.session

def getSession (sslSocket : SSLSocket) (sessionId : SessionId) (wantsLookup : Bool)
    (m : SSLSessionCacheManager n_buckets) : SSLSessionCacheManager n_buckets :=
  if sessionId.length < MIN_SESSION_ID_LENGTH then m
  else
    let found := m.localCache.lookupSession sessionId
    let m := { m with localCache := found.2 }
    if found.1.isNone && m.externalCache && wantsLookup then m.getExternalSession sslSocket sessionId
    else m.returnSession found.1

/-- The rest of `getSession` after `getAsync`. -/
def getAsyncReturns (res : Bool) (m : SSLSessionCacheManager n_buckets) : Except Fault (SSLSessionCacheManager n_buckets) :=
  match m.stack with
  | .getAsync cacheCtx :: stack =>
      let m := { m with stack := stack }
      if res then .ok { m with events := m.events ++ [.wouldBlock cacheCtx.lookup cacheCtx.sslSocket] }
      else if cacheCtx ∈ m.outstanding then
        .ok { m.setPending cacheCtx.sessionId none with outstanding := m.outstanding.erase cacheCtx }
      -- a provider that has completed the lookup does not say that it could not start it
      else .error .impossible
  | _ => .error .impossible

/-- `restartSSLAccept` of the manager, up to that of the first socket. -/
def restartSSLAccept (cacheCtx : CacheContext) (restored : Option (Option Session))
    (m : SSLSessionCacheManager n_buckets) : Except Fault (SSLSessionCacheManager n_buckets) :=
  match m.pendingLookups cacheCtx.sessionId with
  | none => .error .notPending
  | some pending =>
      let pending := { pending with request_in_progress := false, session := restored.join }
      .ok { m.setPending cacheCtx.sessionId (some pending) with
        stack := .restartSSLAccept cacheCtx 0 restored :: m.stack
        events := m.events ++ [.restartSSLAccept cacheCtx.lookup cacheCtx.sslSocket] }

def complete (cacheCtx : CacheContext) (completion : Completion) (m : SSLSessionCacheManager n_buckets) :
    Except Fault (SSLSessionCacheManager n_buckets) :=
  if cacheCtx ∈ m.outstanding then
    let m := { m with outstanding := m.outstanding.erase cacheCtx }
    match completion with
    | .onGetSuccess session => m.restartSSLAccept cacheCtx (some session)
    | .onGetSuccessBuf none => .ok m
    | .onGetSuccessBuf (some session) => m.restartSSLAccept cacheCtx (some session)
    | .onGetFailure => m.restartSSLAccept cacheCtx none
  else .error .impossible

/-- The loop of `restartSSLAccept` goes on after a socket, and after the last one `restoreSession` does. -/
def restartReturns (m : SSLSessionCacheManager n_buckets) : Except Fault (SSLSessionCacheManager n_buckets) :=
  match m.stack with
  | .restartSSLAccept cacheCtx next restored :: stack => match m.pendingLookups cacheCtx.sessionId with
      | none => .error .dangling
      | some pending => match pending.waiters[next]? with
          | some sslSocket => .ok { m with
              stack := .restartSSLAccept cacheCtx (next + 1) restored :: stack
              events := m.events ++ [.restartSSLAccept cacheCtx.lookup sslSocket] }
          | none =>
              .ok { m.setPending cacheCtx.sessionId none with
                stack := stack
                localCache := m.localCache.storeRestored cacheCtx.sessionId restored }
  | _ => .error .impossible

def step (m : SSLSessionCacheManager n_buckets) : Op → Except Fault (SSLSessionCacheManager n_buckets)
  | .newSession sessionId session => .ok (m.newSession sessionId session)
  | .removeSession sessionId => .ok (m.removeSession sessionId)
  | .getSession sslSocket sessionId wantsLookup => .ok (m.getSession sslSocket sessionId wantsLookup)
  | .getAsyncReturns res => m.getAsyncReturns res
  | .complete cacheCtx completion => m.complete cacheCtx completion
  | .restartReturns => m.restartReturns

abbrev run (m : SSLSessionCacheManager n_buckets) (ops : List Op) : Except Fault (SSLSessionCacheManager n_buckets) :=
  Transition.run step m ops

end SSLSessionCacheManager
end Wangle.Ssl
