import Wangle.Client.FilePersistentCache

/-!
# `SSLSessionPersistentCache`, `SSLSessionCacheUtils` and `SSLSessionCallbacks`

The sessions of a client are kept in a `FilePersistentCache`. Times are in the ticks of the system clock, which are
nanoseconds.
-/

namespace Wangle.Client

structure OpenSSL (σ : Type) where
  i2d_SSL_SESSION : σ → Option (List UInt8)
  d2i_SSL_SESSION : List UInt8 → Option σ
  has_ticket : σ → Bool
  get_ticket_lifetime_hint : σ → Nat
  get0_hostname : σ → Option String
  -- `WANGLE_HAVE_SSL_SESSION_DUP`
  haveSessionDup : Bool
  d2i_i2d : ∀ {session bytes}, i2d_SSL_SESSION session = some bytes → d2i_SSL_SESSION bytes = some session

structure SSLSession (σ : Type) where
  session : σ
  -- in the ex data, and empty if there is none
  serviceIdentity : String := ""
  deriving DecidableEq, Repr

structure SSLSessionCacheData (σ : Type) where
  sessionData : List UInt8
  addedTime : Int := 0
  serviceIdentity : String := ""
  sessionDuplicateTemplate : Option (SSLSession σ) := none
  deriving DecidableEq, Repr

namespace SSLSessionCacheData
variable {σ : Type}

/-- `toDynamic` and then `convertTo`: the template is left out. -/
def converted (data : SSLSessionCacheData σ) : SSLSessionCacheData σ := { data with sessionDuplicateTemplate := none }

end SSLSessionCacheData

section utils
variable {σ : Type} (ssl : OpenSSL σ)

def setSessionServiceIdentity (session : SSLSession σ) (str : String) : SSLSession σ :=
  if str.isEmpty then session else { session with serviceIdentity := str }

def getCacheDataForSession (sess : SSLSession σ) : Option (SSLSessionCacheData σ) :=
  (ssl.i2d_SSL_SESSION sess.session).map fun sessionData =>
    { sessionData
      serviceIdentity := sess.serviceIdentity
      sessionDuplicateTemplate := if ssl.haveSessionDup then some sess else none }

def getSessionFromCacheData (data : SSLSessionCacheData σ) : Option (SSLSession σ) :=
  match data.sessionDuplicateTemplate with
  | some template => some template
  | none => (ssl.d2i_SSL_SESSION data.sessionData).map fun session =>
      setSessionServiceIdentity { session } data.serviceIdentity

end utils

structure SSLSessionSetup (K σ : Type) extends FileSetup K (SSLSessionCacheData σ), OpenSSL σ where
  getKey : String → K
  convert_eq : convert = SSLSessionCacheData.converted

namespace SSLSessionPersistentCache
variable {K σ : Type} (setup : SSLSessionSetup K σ)

inductive Op (K σ : Type)
  | getSSLSession (identity : String)
  | removeSSLSession (identity : String)
  -- with the key of the socket's session and the name of the server
  | newSessionCallback (key : String) (name : Option String) (session : SSLSession σ) (now : Int)
  | removeSessionCallback (session : SSLSession σ)
  -- what the cache does on its own, and the end of the process
  | cache (op : FilePersistentCache.Op K (SSLSessionCacheData σ))

def byClient : FilePersistentCache.Op K (SSLSessionCacheData σ) → Bool
  | .cache (.get _) | .cache (.put ..) | .cache (.remove _) => true
  | _ => false

def setSSLSession (identity : String) (session : SSLSession σ) (now : Int) :
    Option (FilePersistentCache.Op K (SSLSessionCacheData σ)) :=
  (getCacheDataForSession setup.toOpenSSL session).map fun sessionCacheData =>
    .cache (.put (setup.getKey identity) { sessionCacheData with addedTime := now })

def removeSSLSession (identity : String) : FilePersistentCache.Op K (SSLSessionCacheData σ) :=
  .cache (.remove (setup.getKey identity))

def sessionKey (key : String) (name : Option String) : String := if key.isEmpty then name.getD "" else key

def request : Op K σ → Option (FilePersistentCache.Op K (SSLSessionCacheData σ))
  | .getSSLSession identity => some (.cache (.get (setup.getKey identity)))
  | .removeSSLSession identity => some (removeSSLSession setup identity)
  | .newSessionCallback key name session now =>
      let sessionKey := sessionKey key name
      if sessionKey.isEmpty then none
      else setSSLSession setup sessionKey (setSessionServiceIdentity session sessionKey) now
  | .removeSessionCallback session =>
      if session.serviceIdentity.isEmpty then (setup.get0_hostname session.session).map (removeSSLSession setup)
      else some (removeSSLSession setup session.serviceIdentity)
  | .cache op => if byClient op then none else some op

def expired (session : SSLSession σ) (addedTime now : Int) : Bool :=
  let hint := setup.get_ticket_lifetime_hint session.session
  setup.has_ticket session.session && decide (0 < hint) && decide (hint ≤ (now - addedTime).tdiv 1000000000)

variable [DecidableEq K]

def getSSLSession (identity : String) (now : Int) (s : FilePersistentCache K (SSLSessionCacheData σ)) :
    Option (SSLSession σ) :=
  match (s.cache.cache.get (setup.getKey identity)).1 with
  | none => none
  | some value => match getSessionFromCacheData setup.toOpenSSL value with
      | none => none
      | some sess => if expired setup sess value.addedTime now then none else some sess

abbrev run (ops : List (Op K σ)) :
    Except LRUPersistentCache.Stuck (FilePersistentCache K (SSLSessionCacheData σ)) :=
  FilePersistentCache.run setup.toFileSetup (ops.filterMap (request setup))

end SSLSessionPersistentCache
end Wangle.Client
