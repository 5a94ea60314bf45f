import Wangle.Ssl.SSLSessionCacheManager

/-!
# What a session cache manager does in one step
-/

namespace Wangle.Proof.Ssl
open Wangle.Ssl SSLSessionCacheManager

variable {n : Nat}

def looked (sessionId : SessionId) (m : SSLSessionCacheManager n) : SSLSessionCacheManager n :=
  { m with localCache := (m.localCache.lookupSession sessionId).2 }

def returnPending (session : Option Session) (m : SSLSessionCacheManager n) : SSLSessionCacheManager n :=
  returnSession session { m with localCache := m.localCache.record (session.toList.map .SSL_SESSION_up_ref) }

def missed (sessionId : SessionId) (m : SSLSessionCacheManager n) : Prop :=
  (m.localCache.lookupSession sessionId).1 = none

def restoredBy : Completion → Option (Option Session)
  | .onGetSuccess session => some session
  | .onGetSuccessBuf valueBuf => valueBuf
  | .onGetFailure => none

def withWaiter (sslSocket : SSLSocket) (pending : PendingLookup) : PendingLookup :=
  { pending with waiters := pending.waiters ++ [sslSocket] }

def withAnswer (restored : Option (Option Session)) (pending : PendingLookup) : PendingLookup :=
  { pending with request_in_progress := false, session := restored.join }

inductive Takes (m : SSLSessionCacheManager n) : Op → SSLSessionCacheManager n → Prop
  | newSession (sessionId : SessionId) (session : Session) :
      Takes m (.newSession sessionId session) (m.newSession sessionId session)
  | removeSession (sessionId : SessionId) : Takes m (.removeSession sessionId) (m.removeSession sessionId)
  | short (sslSocket : SSLSocket) (sessionId : SessionId) (wantsLookup : Bool) :
      Takes m (.getSession sslSocket sessionId wantsLookup) m
  | returned (sslSocket : SSLSocket) (sessionId : SessionId) (wantsLookup : Bool) :
      Takes m (.getSession sslSocket sessionId wantsLookup)
        ((looked sessionId m).returnSession (m.localCache.lookupSession sessionId).1)
  | started (sslSocket : SSLSocket) (sessionId : SessionId) (wantsLookup : Bool) (miss : missed sessionId m)
      (free : m.pendingLookups sessionId = none) :
      Takes m (.getSession sslSocket sessionId wantsLookup)
        (((looked sessionId m).setPending sessionId (some { lookup := m.lookups })).lookupCacheRecord sessionId sslSocket)
  | attached (sslSocket : SSLSocket) (sessionId : SessionId) (wantsLookup : Bool) (pending : PendingLookup)
      (miss : missed sessionId m) (isPending : m.pendingLookups sessionId = some pending)
      (inProgress : pending.request_in_progress = true) :
      Takes m (.getSession sslSocket sessionId wantsLookup)
        { (looked sessionId m).setPending sessionId (some (withWaiter sslSocket pending)) with
          events := m.events ++ [.wouldBlock pending.lookup sslSocket] }
  | answered (sslSocket : SSLSocket) (sessionId : SessionId) (wantsLookup : Bool) (pending : PendingLookup)
      (miss : missed sessionId m) :
      Takes m (.getSession sslSocket sessionId wantsLookup)
        (returnPending pending.session (looked sessionId m))
  | asked (cacheCtx : CacheContext) (stack : List Frame) (isStack : m.stack = .getAsync cacheCtx :: stack) :
      Takes m (.getAsyncReturns true)
        { m with stack := stack, events := m.events ++ [.wouldBlock cacheCtx.lookup cacheCtx.sslSocket] }
  | refused (cacheCtx : CacheContext) (stack : List Frame) (isStack : m.stack = .getAsync cacheCtx :: stack)
      (isOutstanding : cacheCtx ∈ m.outstanding) :
      Takes m (.getAsyncReturns false)
        { m.setPending cacheCtx.sessionId none with stack := stack, outstanding := m.outstanding.erase cacheCtx }
  | dropped (cacheCtx : CacheContext) (isOutstanding : cacheCtx ∈ m.outstanding) :
      Takes m (.complete cacheCtx (.onGetSuccessBuf none)) { m with outstanding := m.outstanding.erase cacheCtx }
  | woke (cacheCtx : CacheContext) (completion : Completion) (pending : PendingLookup)
      (isOutstanding : cacheCtx ∈ m.outstanding) (isPending : m.pendingLookups cacheCtx.sessionId = some pending) :
      Takes m (.complete cacheCtx completion)
        { m.setPending cacheCtx.sessionId (some (withAnswer (restoredBy completion) pending)) with
          outstanding := m.outstanding.erase cacheCtx
          stack := .restartSSLAccept cacheCtx 0 (restoredBy completion) :: m.stack
          events := m.events ++ [.restartSSLAccept cacheCtx.lookup cacheCtx.sslSocket] }
  | next (cacheCtx : CacheContext) (i : Nat) (restored : Option (Option Session)) (stack : List Frame)
      (pending : PendingLookup) (sslSocket : SSLSocket)
      (isStack : m.stack = .restartSSLAccept cacheCtx i restored :: stack)
      (isPending : m.pendingLookups cacheCtx.sessionId = some pending) (isWaiter : pending.waiters[i]? = some sslSocket) :
      Takes m .restartReturns
        { m with
          stack := .restartSSLAccept cacheCtx (i + 1) restored :: stack
          events := m.events ++ [.restartSSLAccept cacheCtx.lookup sslSocket] }
  | last (cacheCtx : CacheContext) (i : Nat) (restored : Option (Option Session)) (stack : List Frame)
      (pending : PendingLookup) (isStack : m.stack = .restartSSLAccept cacheCtx i restored :: stack)
      (isPending : m.pendingLookups cacheCtx.sessionId = some pending) (noWaiter : pending.waiters[i]? = none) :
      Takes m .restartReturns
        { m.setPending cacheCtx.sessionId none with
          stack := stack
          localCache := m.localCache.storeRestored cacheCtx.sessionId restored }

variable {m m' : SSLSessionCacheManager n}

theorem getSession_takes (sslSocket : SSLSocket) (sessionId : SessionId) (wantsLookup : Bool) :
    Takes m (.getSession sslSocket sessionId wantsLookup) (m.getSession sslSocket sessionId wantsLookup) := by
  unfold getSession
  split
  · exact .short sslSocket sessionId wantsLookup
  · dsimp only
    split
    · rename_i external
      have miss : missed sessionId m := by
        rw [Bool.and_eq_true, Bool.and_eq_true, Option.isNone_iff_eq_none] at external
        exact external.1.1
      unfold getExternalSession
      split
      · rename_i free
        exact .started sslSocket sessionId wantsLookup miss free
      · rename_i pending isPending
        split
        · rename_i inProgress
          exact .attached sslSocket sessionId wantsLookup pending miss isPending inProgress
        · exact .answered sslSocket sessionId wantsLookup pending miss
    · exact .returned sslSocket sessionId wantsLookup

theorem getAsyncReturns_takes {res : Bool} (taken : m.getAsyncReturns res = .ok m') :
    Takes m (.getAsyncReturns res) m' := by
  unfold getAsyncReturns at taken
  split at taken
  · rename_i cacheCtx stack isStack
    cases res with
    | true =>
        cases taken
        exact .asked cacheCtx stack isStack
    | false =>
        dsimp only at taken
        split at taken
        · contradiction
        · split at taken
          · rename_i isOutstanding
            cases taken
            exact .refused cacheCtx stack isStack isOutstanding
          · cases taken
  · cases taken

theorem complete_takes {cacheCtx : CacheContext} {completion : Completion} (taken : m.complete cacheCtx completion = .ok m') :
    Takes m (.complete cacheCtx completion) m' := by
  unfold complete at taken
  split at taken
  · rename_i isOutstanding
    have restarted (restored : Option (Option Session)) (isRestored : restoredBy completion = restored)
        (taken : { m with outstanding := m.outstanding.erase cacheCtx }.restartSSLAccept cacheCtx restored = .ok m') :
        Takes m (.complete cacheCtx completion) m' := by
      subst isRestored
      unfold restartSSLAccept at taken
      split at taken
      · cases taken
      · rename_i pending isPending
        cases taken
        exact .woke cacheCtx completion pending isOutstanding isPending
    cases completion with
    | onGetSuccess session => exact restarted (some session) rfl taken
    | onGetSuccessBuf valueBuf =>
        cases valueBuf with
        | none =>
            cases taken
            exact .dropped cacheCtx isOutstanding
        | some session => exact restarted (some session) rfl taken
    | onGetFailure => exact restarted none rfl taken
  · cases taken

theorem restartReturns_takes (taken : m.restartReturns = .ok m') : Takes m .restartReturns m' := by
  unfold restartReturns at taken
  split at taken
  · rename_i cacheCtx i restored stack isStack
    split at taken
    · cases taken
    · rename_i pending isPending
      split at taken
      · rename_i sslSocket isWaiter
        cases taken
        exact .next cacheCtx i restored stack pending sslSocket isStack isPending isWaiter
      · rename_i noWaiter
        cases taken
        exact .last cacheCtx i restored stack pending isStack isPending noWaiter
  · cases taken

theorem takes_of_step {op : Op} (taken : step m op = .ok m') : Takes m op m' := by
  cases op with
  | newSession sessionId session =>
      cases taken
      exact .newSession sessionId session
  | removeSession sessionId =>
      cases taken
      exact .removeSession sessionId
  | getSession sslSocket sessionId wantsLookup =>
      cases taken
      exact getSession_takes sslSocket sessionId wantsLookup
  | getAsyncReturns res => exact getAsyncReturns_takes taken
  | complete cacheCtx completion => exact complete_takes taken
  | restartReturns => exact restartReturns_takes taken

def oneEntry : SSLSessionCacheManager 1 := { localCache := .new (fun _ => 0) 1 1 }

def sessionId₀ : SessionId := List.replicate 16 0

end Wangle.Proof.Ssl
