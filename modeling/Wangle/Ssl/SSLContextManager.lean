import Wangle.Ssl.SSLContextSelectionMisc
import Wangle.Ssl.TLSTicketKeyManager

/-!
# `SSLContextManager`

An SSL context is known by its address, which is an index into the contexts that have been made. What loading a
certificate, the ciphers or the trusted certificates does is given by the SSL library.
-/

namespace Wangle.Ssl

inductive SignatureNid
  | sha1WithRSAEncryption
  | ecdsaWithSHA1
  | other (nid : Nat)
  deriving DecidableEq, Repr

structure X509 where
  -- null if the name cannot be read
  commonName : Option (List Char)
  subjectAltName : Option (List (List Char))
  signatureNid : SignatureNid
  deriving DecidableEq, Repr

structure CertificateInfo where
  certPath : String
  keyPath : String
  passwordPath : String
  deriving DecidableEq, Repr

abbrev SNINoMatchFn := Nat

structure SSLContextConfig where
  certificates : List CertificateInfo
  sessionTicketEnabled : Bool := true
  sslCiphers : String
  isLocalPrivateKey : Bool := true
  isDefault : Bool := false
  sniNoMatchFn : Option SNINoMatchFn := none
  clientCAFile : String := ""
  offloadType : List String := []
  sessionContext : Option (List Char) := none
  deriving DecidableEq, Repr

/-- What the SSL library answers: the certificate that a context then has, or the text of an exception. -/
structure OpenSSL where
  loadCertKeyPairFromFiles : CertificateInfo → Except String (Option X509)
  loadCertificate : CertificateInfo → Except String (Option X509)
  ciphers : String → Except String Unit
  loadClientCA : String → Except String Unit

structure ServerSSLContext where
  x509 : Option X509
  sessionIdContext : List Char
  ticketManager : Option TLSTicketKeyManager

abbrev Ctx := Nat

abbrev DnMap := Std.HashMap SSLContextKey Ctx

structure SslContexts where
  ctxs : List Ctx := []
  defaultCtx : Option Ctx := none
  defaultCtxDomainName : List Char := []
  dnMap : DnMap := ∅

inductive ClientHelloExtStatsCall
  | recordAbsentHostname
  | recordMatch
  | recordNotMatch
  | recordCertCrypto (requested given : CertCrypto)
  deriving DecidableEq, Repr

structure SSLContextManager where
  contexts : SslContexts := {}
  noMatchFn : Option SNINoMatchFn := none
  strict : Bool := true
  -- `stats_` is not null
  stats : Bool := false
  -- what `clientHelloTLSExtStats_` has been told, if it is not null
  clientHelloTLSExtStats : Option (List ClientHelloExtStatsCall) := none
  heap : List ServerSSLContext := []

/-- A call that may throw. What it has written by then stays. -/
abbrev Outcome (σ : Type) := EStateM.Result String σ Unit

inductive HashAlgorithm
  | sha256
  | other (n : Nat)
  deriving DecidableEq, Repr

inductive TLSExtension
  | serverName
  | other (n : Nat)
  deriving DecidableEq, Repr

structure ClientHelloInfo where
  clientHelloSigAlgs : List HashAlgorithm
  clientHelloExtensions : List TLSExtension
  deriving DecidableEq, Repr

structure Handshake where
  servername : Option (List Char)
  clientInfo : Option ClientHelloInfo
  deriving DecidableEq, Repr

/-- What a call of the no-match callback answers and does to the manager. -/
abbrev NoMatch := SNINoMatchFn → List Char → SSLContextManager → Bool × SSLContextManager

structure Served where
  -- the context that the socket is switched to
  selected : Option Ctx
  -- the no-match callback that is called, and the name it is called with
  asked : Option (SNINoMatchFn × List Char)
  manager : SSLContextManager

namespace SSLContextManager

/-- The text that a C function reads. -/
def cString (s : List Char) : List Char := s.takeWhile (· ≠ '\x00')

section domainNames

def checkedName (dn : List Char) : Except String DNString :=
  if dn = ['.'] then
    .error "X509 has only '.' in the CN or subject alternative name (after removing any preceding '*')"
  else if '*' ∈ cString dn then
    .error "X509 has '*' in the the CN or subject alternative name (after removing any preceding '*')"
  else .ok dn

def insertedName (dn : List Char) : Except String DNString :=
  if dn.length > 2 ∧ dn[0]? = some '*' then
    if dn[1]? = some '.' then checkedName dn.tail
    else .error ("Invalid wildcard CN/subject-alternative-name \"" ++ String.ofList (cString dn) ++
      "\" (only allow character \".\" after \"*\"")
  else checkedName dn

def insertIntoDnMap (key : SSLContextKey) (sslCtx : Ctx) (overwrite : Bool) (dnMap : DnMap) : DnMap :=
  match dnMap[key]? with
  | none => dnMap.insert key sslCtx
  | some v =>
      if v = sslCtx then dnMap
      else if overwrite then dnMap.insert key sslCtx
      else dnMap

def insertName (dnstr : DNString) (sslCtx : Ctx) (certCrypto : CertCrypto) (dnMap : DnMap) : DnMap :=
  let dnMap := insertIntoDnMap ⟨dnstr, certCrypto⟩ sslCtx true dnMap
  if certCrypto ≠ .bestAvailable then insertIntoDnMap ⟨dnstr, .bestAvailable⟩ sslCtx false dnMap else dnMap

def insertSSLCtxByDomainNameImpl (dn : List Char) (sslCtx : Ctx) (certCrypto : CertCrypto) (dnMap : DnMap) :
    Except String DnMap :=
  (insertedName dn).map fun dnstr => insertName dnstr sslCtx certCrypto dnMap

def insertSSLCtxByDomainName (strict : Bool) (dn : List Char) (sslCtx : Ctx) (certCrypto : CertCrypto)
    (dnMap : DnMap) : Outcome DnMap :=
  match insertSSLCtxByDomainNameImpl dn sslCtx certCrypto dnMap with
  | .ok dnMap => .ok () dnMap
  | .error what => if strict then .error what dnMap else .ok () dnMap

def insertSSLCtxByDomainNames (strict : Bool) (sslCtx : Ctx) (certCrypto : CertCrypto) :
    List (List Char) → DnMap → Outcome DnMap
  | [], dnMap => .ok () dnMap
  | dn :: dns, dnMap => match insertSSLCtxByDomainName strict dn sslCtx certCrypto dnMap with
      | .error what dnMap => .error what dnMap
      | .ok () dnMap => insertSSLCtxByDomainNames strict sslCtx certCrypto dns dnMap

end domainNames

section lookup

def getSSLCtxByExactDomain (key : SSLContextKey) (dnMap : DnMap) : Option Ctx := dnMap[key]?

def getSSLCtxBySuffix (key : SSLContextKey) (dnMap : DnMap) : Option Ctx :=
  match key.dnString.dropWhile (· ≠ '.') with
  | [] => none
  | dot :: suffix => dnMap[SSLContextKey.mk (dot :: suffix) key.certCrypto]?

def getSSLCtx (key : SSLContextKey) (dnMap : DnMap) : Option Ctx :=
  (getSSLCtxByExactDomain key dnMap).or (getSSLCtxBySuffix key dnMap)

end lookup

section configs
variable (sha256 : Bytes → Digest)

def certCryptoOf : SignatureNid → CertCrypto
  | .sha1WithRSAEncryption => .sha1Signature
  | .ecdsaWithSHA1 => .sha1Signature
  | .other _ => .bestAvailable

def insert (strict : Bool) (sslCtx : Ctx) (x509 : Option X509) (defaultFallback : Bool) (contexts : SslContexts) :
    Outcome SslContexts :=
  match x509 with
  | none => .error "SSLCtx is invalid" contexts
  | some x509 => match x509.commonName with
      | none => .error "Cannot get CN" contexts
      | some cn =>
          if cn = ['*'] then
            if defaultFallback then .ok () { contexts with ctxs := contexts.ctxs ++ [sslCtx] }
            else .error "STAR X509 is not the default" contexts
          else
            let names := cn :: x509.subjectAltName.getD []
            match insertSSLCtxByDomainNames strict sslCtx (certCryptoOf x509.signatureNid) names contexts.dnMap with
            | .error what dnMap => .error what { contexts with dnMap := dnMap }
            | .ok () dnMap => .ok () { contexts with
                dnMap := dnMap
                defaultCtxDomainName := if defaultFallback then cn else contexts.defaultCtxDomainName
                ctxs := contexts.ctxs ++ [sslCtx] }

/-- What `addSSLContextConfig` knows of the certificates it has loaded. -/
structure Loaded where
  numCerts : Nat := 0
  commonName : List Char := []
  subjectAltName : Option (List (List Char)) := none
  lastCertPath : String := ""
  x509 : Option X509 := none

def loadFiles (ssl : OpenSSL) (ctxConfig : SSLContextConfig) (cert : CertificateInfo) : Except String (Option X509) :=
  if ctxConfig.isLocalPrivateKey || ctxConfig.offloadType.isEmpty then ssl.loadCertKeyPairFromFiles cert
  else ssl.loadCertificate cert

def loadCert (ssl : OpenSSL) (ctxConfig : SSLContextConfig) (loaded : Loaded) (cert : CertificateInfo) :
    Except String Loaded :=
  match loadFiles ssl ctxConfig cert with
  | .error what => .error ("error loading SSL certificate " ++ cert.certPath ++ ": " ++ what)
  | .ok none => .error ("Certificate: " ++ cert.certPath ++ " is invalid")
  | .ok (some x509) => match x509.commonName with
      | none => .error ("Cannot get CN for X509 " ++ cert.certPath)
      | some cn =>
          let altName := x509.subjectAltName.map fun names => names.mergeSort fun a b => decide (a ≤ b)
          if loaded.numCerts = 0 then .ok {
            numCerts := 1
            commonName := cn
            subjectAltName := altName
            lastCertPath := cert.certPath
            x509 := some x509 }
          else if loaded.commonName ≠ cn then
            .error ("X509 " ++ cert.certPath ++ " does not have same CN as " ++ loaded.lastCertPath)
          else if altName ≠ loaded.subjectAltName then
            .error ("X509 " ++ cert.certPath ++ " does not have same SAN as " ++ loaded.lastCertPath)
          else .ok { loaded with
            numCerts := loaded.numCerts + 1
            lastCertPath := cert.certPath
            x509 := some x509 }

def setupTicketManager (stats : Bool) (ticketSeeds : Option TLSTicketKeySeeds) (ctxConfig : SSLContextConfig) :
    Option TLSTicketKeyManager :=
  ticketSeeds.bind fun seeds =>
    if ctxConfig.sessionTicketEnabled then
      some (TLSTicketKeyManager.setTLSTicketKeySeeds sha256 seeds { stats := if stats then some [] else none }).2
    else none

def loadClientCA (ssl : OpenSSL) (ctxConfig : SSLContextConfig) : Except String Unit :=
  if ctxConfig.clientCAFile = "" then .ok ()
  else match ssl.loadClientCA ctxConfig.clientCAFile with
    | .error what => .error ("error loading client CA" ++ ctxConfig.clientCAFile ++ ": " ++ what)
    | .ok () => .ok ()

def loadConfig (ssl : OpenSSL) (ctxConfig : SSLContextConfig) : Except String Loaded := do
  let loaded ← ctxConfig.certificates.foldlM (loadCert ssl ctxConfig) {}
  ssl.ciphers ctxConfig.sslCiphers
  loadClientCA ssl ctxConfig
  return loaded

/-- What `addSSLContextConfig` does before it touches the manager. -/
def makeContext (ssl : OpenSSL) (stats : Bool) (ticketSeeds : Option TLSTicketKeySeeds)
    (ctxConfig : SSLContextConfig) : Except String ServerSSLContext :=
  (loadConfig ssl ctxConfig).map fun loaded => {
    x509 := loaded.x509
    sessionIdContext := match ctxConfig.sessionContext with
      | some (c :: context) => c :: context
      | _ => loaded.commonName
    ticketManager := setupTicketManager sha256 stats ticketSeeds ctxConfig }

def ctxSetupByOpensslFeature (sslCtx : Ctx) (ctxConfig : SSLContextConfig) :
    SslContexts × SSLContextManager → Outcome (SslContexts × SSLContextManager)
  | (contexts, m) =>
      let m := { m with noMatchFn := ctxConfig.sniNoMatchFn }
      if ctxConfig.isDefault then
        if contexts.defaultCtx.isSome then .error ">1 X509 is set as default" (contexts, m)
        else .ok () ({ contexts with defaultCtx := some sslCtx }, m)
      else .ok () (contexts, m)

def addTo (ssl : OpenSSL) (ticketSeeds : Option TLSTicketKeySeeds) (ctxConfig : SSLContextConfig) :
    SslContexts × SSLContextManager → Outcome (SslContexts × SSLContextManager)
  | (contexts, m) => match makeContext sha256 ssl m.stats ticketSeeds ctxConfig with
      | .error what => .error what (contexts, m)
      | .ok context =>
          let sslCtx := m.heap.length
          match ctxSetupByOpensslFeature sslCtx ctxConfig (contexts, { m with heap := m.heap ++ [context] }) with
          | .error what s => .error what s
          | .ok () (contexts, m) => match insert m.strict sslCtx context.x509 ctxConfig.isDefault contexts with
              | .error what contexts => .error ("Error adding certificate : std::runtime_error: " ++ what) (contexts, m)
              | .ok () contexts => .ok () (contexts, m)

def addSSLContextConfig (ssl : OpenSSL) (ticketSeeds : Option TLSTicketKeySeeds) (ctxConfig : SSLContextConfig)
    (m : SSLContextManager) : Outcome SSLContextManager :=
  match addTo sha256 ssl ticketSeeds ctxConfig (m.contexts, m) with
  | .error what (contexts, m) => .error what { m with contexts := contexts }
  | .ok () (contexts, m) => .ok () { m with contexts := contexts }

def addAll (ssl : OpenSSL) (ticketSeeds : Option TLSTicketKeySeeds) : List SSLContextConfig →
    SslContexts × SSLContextManager → Outcome (SslContexts × SSLContextManager)
  | [], s => .ok () s
  | ctxConfig :: ctxConfigs, s => match addTo sha256 ssl ticketSeeds ctxConfig s with
      | .error what s => .error what s
      | .ok () s => addAll ssl ticketSeeds ctxConfigs s

def oldTicketSeeds (m : SSLContextManager) : TLSTicketKeySeeds :=
  match m.contexts.ctxs.findSome? fun ctx => m.heap[ctx]?.bind ServerSSLContext.ticketManager with
  | some ticketManager => ticketManager.getTLSTicketKeySeeds
  | none => ⟨[], [], []⟩

def resetSSLContextConfigs (ssl : OpenSSL) (ticketSeeds : Option TLSTicketKeySeeds)
    (ctxConfigs : List SSLContextConfig) (m : SSLContextManager) : Outcome SSLContextManager :=
  let seeds := ticketSeeds.getD m.oldTicketSeeds
  match addAll sha256 ssl (some seeds) ctxConfigs ({}, m) with
  -- the contexts made so far are released together with the local table that refers to them
  | .error what (_, m') => .error what { m' with heap := m.heap }
  | .ok () (contexts, m') => .ok () { m' with contexts := contexts }

def clear (m : SSLContextManager) : SSLContextManager := { m with contexts := {} }

def reloadTicketManager (seeds : TLSTicketKeySeeds) (context : ServerSSLContext) : ServerSSLContext :=
  { context with ticketManager :=
      context.ticketManager.map fun tmgr => (tmgr.setTLSTicketKeySeeds sha256 seeds).2 }

def reloadTLSTicketKeys (seeds : TLSTicketKeySeeds) (m : SSLContextManager) : SSLContextManager :=
  { m with heap := m.contexts.ctxs.foldl (fun heap ctx => heap.modify ctx (reloadTicketManager sha256 seeds)) m.heap }

inductive Op
  | addSSLContextConfig (ssl : OpenSSL) (ticketSeeds : Option TLSTicketKeySeeds) (ctxConfig : SSLContextConfig)
  | resetSSLContextConfigs (ssl : OpenSSL) (ticketSeeds : Option TLSTicketKeySeeds)
      (ctxConfigs : List SSLContextConfig)
  | clear
  | reloadTLSTicketKeys (seeds : TLSTicketKeySeeds)

def written {σ : Type} : Outcome σ → σ
  | .ok () s => s
  | .error _ s => s

/-- The caller goes on after a call that has thrown. -/
def step (m : SSLContextManager) : Op → Except Empty SSLContextManager
  | .addSSLContextConfig ssl ticketSeeds ctxConfig => .ok (written (addSSLContextConfig sha256 ssl ticketSeeds ctxConfig m))
  | .resetSSLContextConfigs ssl ticketSeeds ctxConfigs =>
      .ok (written (resetSSLContextConfigs sha256 ssl ticketSeeds ctxConfigs m))
  | .clear => .ok m.clear
  | .reloadTLSTicketKeys seeds => .ok (m.reloadTLSTicketKeys sha256 seeds)

abbrev run (m : SSLContextManager) (ops : List Op) : Except Empty SSLContextManager :=
  Transition.run (step sha256) m ops

end configs

section handshakes

def record (call : ClientHelloExtStatsCall) (m : SSLContextManager) : SSLContextManager :=
  { m with clientHelloTLSExtStats := m.clientHelloTLSExtStats.map (· ++ [call]) }

def certCryptoReq : Option ClientHelloInfo → CertCrypto
  | none => .bestAvailable
  | some clientInfo =>
      if .sha256 ∈ clientInfo.clientHelloSigAlgs ∨ .serverName ∈ clientInfo.clientHelloExtensions
      then .bestAvailable else .sha1Signature

def lookupCtx (dnstr : DNString) (certCryptoReq : CertCrypto) (m : SSLContextManager) : Option (Ctx × CertCrypto) :=
  match getSSLCtx ⟨dnstr, certCryptoReq⟩ m.contexts.dnMap with
  | some ctx => some (ctx, certCryptoReq)
  | none =>
      if certCryptoReq ≠ .bestAvailable then
        (getSSLCtx ⟨dnstr, .bestAvailable⟩ m.contexts.dnMap).map fun ctx => (ctx, .bestAvailable)
      else none

def serverNameFound (handshake : Handshake) (given : CertCrypto) (m : SSLContextManager) : SSLContextManager :=
  let m := if handshake.servername.isSome then m.record .recordMatch else m
  m.record (.recordCertCrypto (certCryptoReq handshake.clientInfo) given)

def serverNameNotFound (handshake : Handshake) (m : SSLContextManager) : SSLContextManager :=
  if handshake.servername.isSome then m.record .recordNotMatch else m

def serverNameCallback (noMatch : NoMatch) (handshake : Handshake) (m : SSLContextManager) : Served :=
  let m := if handshake.servername.isSome then m else m.record .recordAbsentHostname
  let sn := cString (handshake.servername.getD m.contexts.defaultCtxDomainName)
  let req := certCryptoReq handshake.clientInfo
  match m.lookupCtx sn req with
  | some (ctx, given) => { selected := some ctx, asked := none, manager := m.serverNameFound handshake given }
  | none => match m.noMatchFn with
      | none => { selected := none, asked := none, manager := m.serverNameNotFound handshake }
      | some fn =>
          -- the callback has one chance to add the certificate
          let (again, m) := noMatch fn sn m
          match if again then m.lookupCtx sn req else none with
          | some (ctx, given) =>
              { selected := some ctx, asked := some (fn, sn), manager := m.serverNameFound handshake given }
          | none => { selected := none, asked := some (fn, sn), manager := m.serverNameNotFound handshake }

/-- What each handshake selects and asks, the answers of the callback being given with the handshake. -/
def handshakes : List (Handshake × NoMatch) → SSLContextManager → List (Option Ctx × Option (SNINoMatchFn × List Char))
  | [], _ => []
  | (handshake, noMatch) :: rest, m =>
      let served := serverNameCallback noMatch handshake m
      (served.selected, served.asked) :: handshakes rest served.manager

end handshakes

end SSLContextManager
end Wangle.Ssl
