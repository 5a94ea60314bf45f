import Wangle.Proof.Ssl.Reapply
import Wangle.Proof.Ssl.Selection
import Mathlib.Logic.Function.Iterate

/-!
# Adding and reloading certificates

A configuration is added in several writes, and any of them can be the last one before an exception.
-/

namespace Wangle.Proof.Ssl
open Wangle.Ssl Wangle.Keyed SSLContextManager
open Wangle.Transition hiding run

def certificateOf (ssl : OpenSSL) (ctxConfig : SSLContextConfig) : Option X509 :=
  ctxConfig.certificates.getLast?.bind fun cert => (loadFiles ssl ctxConfig cert).toOption.join

def namesOf (x509 : X509) : List (List Char) := x509.commonName.toList ++ x509.subjectAltName.getD []

def Insertable (strict isDefault : Bool) (x509 : Option X509) : Prop :=
  ∃ x cn, x509 = some x ∧ x.commonName = some cn ∧
    if cn = ['*'] then isDefault = true else strict = true → ∀ name ∈ namesOf x, Allowed name

def NamesTogether (strict : Bool) (x509 : Option X509) : Prop :=
  ∀ x cn, x509 = some x → x.commonName = some cn → strict = true → Allowed cn →
    ∀ name ∈ x.subjectAltName.getD [], Allowed name

def Loads (ssl : OpenSSL) (ctxConfig : SSLContextConfig) : Prop := (loadConfig ssl ctxConfig).isOk = true

/-- A configuration that loads, and is no second default one, is added as a whole or not at all. -/
def AllOrNothing (ssl : OpenSSL) (ctxConfig : SSLContextConfig) (m : SSLContextManager) : Prop :=
  Loads ssl ctxConfig → (ctxConfig.isDefault = true → m.contexts.defaultCtx = none) →
    NamesTogether m.strict (certificateOf ssl ctxConfig) ∧
      (ctxConfig.isDefault = true → Insertable m.strict true (certificateOf ssl ctxConfig))

/-- The contexts that the map has were made before the next one is. -/
def Made (contexts : SslContexts) (n : Nat) : Prop :=
  ∀ (key : SSLContextKey) (ctx : Ctx), contexts.dnMap[key]? = some ctx → ctx < n

structure Tracked (contexts : SslContexts) : Prop where
  defaultCtx : ∀ ctx, contexts.defaultCtx = some ctx → ctx ∈ contexts.ctxs
  dnMap : ∀ (key : SSLContextKey) (ctx : Ctx), contexts.dnMap[key]? = some ctx → ctx ∈ contexts.ctxs

variable {sha256 : Bytes → Digest} {ssl : OpenSSL} {seeds : Option TLSTicketKeySeeds} {ctxConfig : SSLContextConfig}
  {contexts contexts' : SslContexts} {m m' : SSLContextManager} {what : String} {strict isDefault : Bool}
  {x509 : Option X509} {sslCtx : Ctx} {certCrypto : CertCrypto} {dnMap dnMap' : DnMap} {dns : List (List Char)}

section insert

theorem getElem?_insertName {dnstr : DNString} {key : SSLContextKey} {ctx : Ctx}
    (found : (insertName dnstr sslCtx certCrypto dnMap)[key]? = some ctx) : ctx = sslCtx ∨ dnMap[key]? = some ctx := by
  have one (other : SSLContextKey) (overwrite : Bool) (dnMap : DnMap)
      (found : (insertIntoDnMap other sslCtx overwrite dnMap)[key]? = some ctx) :
      ctx = sslCtx ∨ dnMap[key]? = some ctx := by
    rw [getElem?_insertIntoDnMap] at found
    split at found
    · cases overwrite with
      | true => exact .inl (by simpa using found.symm)
      | false =>
          cases before : dnMap[key]? with
          | none => exact .inl (by simpa [before] using found.symm)
          | some old => exact .inr (by simpa [before] using found)
    · exact .inr found
  unfold insertName at found
  split at found
  · exact (one _ _ _ found).elim .inl (one _ _ _)
  · exact one _ _ _ found

theorem insertName_keeps {dnstr : DNString} {key : SSLContextKey} (there : dnMap[key]? = some sslCtx) :
    (insertName dnstr sslCtx certCrypto dnMap)[key]? = some sslCtx := by
  have one (other : SSLContextKey) (overwrite : Bool) (dnMap : DnMap) (there : dnMap[key]? = some sslCtx) :
      (insertIntoDnMap other sslCtx overwrite dnMap)[key]? = some sslCtx := by
    rw [getElem?_insertIntoDnMap, there]
    simp
  unfold insertName
  split
  · exact one _ _ _ (one _ _ _ there)
  · exact one _ _ _ there

theorem insertName_self (dnstr : DNString) :
    (insertName dnstr sslCtx certCrypto dnMap)[SSLContextKey.mk dnstr certCrypto]? = some sslCtx := by
  cases certCrypto with
  | bestAvailable => simp [insertName, getElem?_insertIntoDnMap]
  | sha1Signature => simp [insertName, getElem?_insertIntoDnMap, SSLContextKey.beq_iff]

theorem insertSSLCtxByDomainNames_rule {P : DnMap → Prop} (strict : Bool) (dns : List (List Char))
    (kept : ∀ dnstr dnMap, P dnMap → P (insertName dnstr sslCtx certCrypto dnMap)) (start : P dnMap) :
    P (written (insertSSLCtxByDomainNames strict sslCtx certCrypto dns dnMap)) := by
  induction dns generalizing dnMap with
  | nil => exact start
  | cons dn dns ih =>
      rw [insertSSLCtxByDomainNames]
      cases inserted : insertedName dn with
      | ok dnstr =>
          rw [insertSSLCtxByDomainName_accepted inserted]
          exact ih (kept dnstr dnMap start)
      | error what =>
          rw [insertSSLCtxByDomainName_refused inserted]
          cases strict with
          | true => exact start
          | false => exact ih start

theorem insertSSLCtxByDomainNames_values {outcome : Outcome DnMap}
    (done : insertSSLCtxByDomainNames strict sslCtx certCrypto dns dnMap = outcome) {key : SSLContextKey} {ctx : Ctx}
    (found : (written outcome)[key]? = some ctx) : ctx = sslCtx ∨ dnMap[key]? = some ctx := by
  subst done
  refine insertSSLCtxByDomainNames_rule (P := fun dnMap' => dnMap'[key]? = some ctx → ctx = sslCtx ∨ dnMap[key]? = some ctx)
    strict dns (fun dnstr dnMap' kept found => ?_) .inr found
  exact (getElem?_insertName found).elim .inl kept

theorem not_allowed_of_error {dn : List Char} (refused : insertedName dn = .error what) : ¬ Allowed dn := by
  simp [Allowed, refused, Except.isOk, Except.toBool]

theorem allowed_of_ok {dn : List Char} {dnstr : DNString} (accepted : insertedName dn = .ok dnstr) : Allowed dn := by
  simp [Allowed, accepted, Except.isOk, Except.toBool]

theorem insertSSLCtxByDomainNames_ok_iff : (∃ dnMap', insertSSLCtxByDomainNames strict sslCtx certCrypto dns dnMap =
    .ok () dnMap') ↔ (strict = true → ∀ name ∈ dns, Allowed name) := by
  induction dns generalizing dnMap with
  | nil => simp [insertSSLCtxByDomainNames]
  | cons dn dns ih =>
      rw [insertSSLCtxByDomainNames, List.forall_mem_cons]
      cases inserted : insertedName dn with
      | ok dnstr =>
          rw [insertSSLCtxByDomainName_accepted inserted, and_iff_right (allowed_of_ok inserted)]
          exact ih
      | error what =>
          have refused := not_allowed_of_error inserted
          rw [insertSSLCtxByDomainName_refused inserted]
          cases strict with
          | true => simp [refused]
          | false => simpa using ih

theorem insertSSLCtxByDomainNames_error
    (failed : insertSSLCtxByDomainNames strict sslCtx certCrypto dns dnMap = .error what dnMap') :
    strict = true ∧ ∃ name ∈ dns, ¬ Allowed name := by
  have notAll : ¬ (strict = true → ∀ name ∈ dns, Allowed name) := by
    rw [← @insertSSLCtxByDomainNames_ok_iff strict sslCtx certCrypto dnMap, failed]
    rintro ⟨_, done⟩
    cases done
  simpa only [not_forall, exists_prop] using notAll

theorem insertSSLCtxByDomainNames_refused {dn : List Char} (refused : ¬ Allowed dn)
    (failed : insertSSLCtxByDomainNames true sslCtx certCrypto (dn :: dns) dnMap = .error what dnMap') :
    dnMap' = dnMap := by
  rw [insertSSLCtxByDomainNames] at failed
  cases inserted : insertedName dn with
  | ok dnstr => exact absurd (allowed_of_ok inserted) refused
  | error what =>
      rw [insertSSLCtxByDomainName_refused inserted] at failed
      cases failed
      rfl

theorem insertSSLCtxByDomainNames_changed {dn : List Char} (fresh : ∀ key : SSLContextKey, dnMap[key]? ≠ some sslCtx)
    (allowed : Allowed dn)
    (failed : insertSSLCtxByDomainNames true sslCtx certCrypto (dn :: dns) dnMap = .error what dnMap') :
    dnMap' ≠ dnMap := by
  rintro rfl
  rw [insertSSLCtxByDomainNames] at failed
  cases inserted : insertedName dn with
  | ok dnstr =>
      rw [insertSSLCtxByDomainName_accepted inserted] at failed
      have kept : (written (insertSSLCtxByDomainNames true sslCtx certCrypto dns
          (insertName dnstr sslCtx certCrypto dnMap')))[SSLContextKey.mk dnstr certCrypto]? = some sslCtx :=
        insertSSLCtxByDomainNames_rule (P := fun dnMap => dnMap[SSLContextKey.mk dnstr certCrypto]? = some sslCtx)
          true dns (fun _ _ there => insertName_keeps there) (insertName_self dnstr)
      simp only at failed
      rw [failed] at kept
      exact fresh _ kept
  | error what => exact not_allowed_of_error inserted allowed

inductive Inserts (strict : Bool) (sslCtx : Ctx) (isDefault : Bool) (contexts : SslContexts) :
    Option X509 → Outcome SslContexts → Prop
  | nameless {x509 : Option X509} (what : String) (nameless : ∀ x, x509 = some x → x.commonName = none) :
      Inserts strict sslCtx isDefault contexts x509 (.error what contexts)
  | star {x : X509} (isStar : x.commonName = some ['*']) (isFallback : isDefault = true) :
      Inserts strict sslCtx isDefault contexts (some x) (.ok () { contexts with ctxs := contexts.ctxs ++ [sslCtx] })
  | otherStar {x : X509} (what : String) (isStar : x.commonName = some ['*']) (notFallback : isDefault = false) :
      Inserts strict sslCtx isDefault contexts (some x) (.error what contexts)
  | named {x : X509} {cn : List Char} {dnMap : DnMap} (named : x.commonName = some cn) (noStar : cn ≠ ['*'])
      (done : insertSSLCtxByDomainNames strict sslCtx (certCryptoOf x.signatureNid) (cn :: x.subjectAltName.getD [])
        contexts.dnMap = .ok () dnMap) :
      Inserts strict sslCtx isDefault contexts (some x) (.ok () { contexts with
        dnMap := dnMap
        defaultCtxDomainName := if isDefault then cn else contexts.defaultCtxDomainName
        ctxs := contexts.ctxs ++ [sslCtx] })
  | refused {x : X509} {cn : List Char} {dnMap : DnMap} {what : String} (named : x.commonName = some cn)
      (noStar : cn ≠ ['*'])
      (failed : insertSSLCtxByDomainNames strict sslCtx (certCryptoOf x.signatureNid) (cn :: x.subjectAltName.getD [])
        contexts.dnMap = .error what dnMap) :
      Inserts strict sslCtx isDefault contexts (some x) (.error what { contexts with dnMap := dnMap })

theorem insert_inserts (strict : Bool) (sslCtx : Ctx) (isDefault : Bool) (contexts : SslContexts) (x509 : Option X509) :
    Inserts strict sslCtx isDefault contexts x509 (SSLContextManager.insert strict sslCtx x509 isDefault contexts) := by
  unfold SSLContextManager.insert
  cases x509 with
  | none => exact .nameless _ (by simp)
  | some x =>
      cases named : x.commonName with
      | none =>
          simp only [named]
          exact .nameless _ fun y isX => by cases isX; exact named
      | some cn =>
          simp only [named]
          split
          · rename_i isStar
            subst isStar
            split
            · exact .star named (by assumption)
            · rename_i notFallback
              exact .otherStar _ named (by simpa using notFallback)
          · rename_i noStar
            split
            · exact .refused named noStar (by assumption)
            · exact .named named noStar (by assumption)

theorem insert_kept {outcome : Outcome SslContexts}
    (done : SSLContextManager.insert strict sslCtx x509 isDefault contexts = outcome) :
    (written outcome).defaultCtx = contexts.defaultCtx ∧
      ∀ (key : SSLContextKey) (ctx : Ctx), (written outcome).dnMap[key]? = some ctx →
        ctx = sslCtx ∨ contexts.dnMap[key]? = some ctx := by
  have inserts := insert_inserts strict sslCtx isDefault contexts x509
  rw [done] at inserts
  cases inserts with
  | nameless | star | otherStar => exact ⟨rfl, fun key ctx found => .inr found⟩
  | named _ _ inserted => exact ⟨rfl, fun key ctx found => insertSSLCtxByDomainNames_values inserted found⟩
  | refused _ _ refusal => exact ⟨rfl, fun key ctx found => insertSSLCtxByDomainNames_values refusal found⟩

theorem insert_ok (done : SSLContextManager.insert strict sslCtx x509 isDefault contexts = .ok () contexts') :
    contexts'.ctxs = contexts.ctxs ++ [sslCtx] ∧ Insertable strict isDefault x509 := by
  have inserts := insert_inserts strict sslCtx isDefault contexts x509
  rw [done] at inserts
  cases inserts with
  | star isStar isFallback => exact ⟨rfl, _, _, rfl, isStar, isFallback⟩
  | @named x cn dnMap named noStar inserted =>
      refine ⟨rfl, x, cn, rfl, named, ?_⟩
      rw [if_neg noStar, namesOf, named]
      exact insertSSLCtxByDomainNames_ok_iff.mp ⟨_, inserted⟩

theorem insert_error (failed : SSLContextManager.insert strict sslCtx x509 isDefault contexts = .error what contexts') :
    ¬ Insertable strict isDefault x509 ∧ (NamesTogether strict x509 → contexts' = contexts) ∧
      ((∀ key : SSLContextKey, contexts.dnMap[key]? ≠ some sslCtx) → contexts' = contexts → NamesTogether strict x509) := by
  have inserts := insert_inserts strict sslCtx isDefault contexts x509
  rw [failed] at inserts
  cases inserts with
  | nameless what nameless =>
      refine ⟨?_, fun _ => rfl, fun _ _ x cn isX isCn => ?_⟩
      · rintro ⟨x, cn, isX, isCn, -⟩
        rw [nameless x isX] at isCn
        cases isCn
      · rw [nameless x isX] at isCn
        cases isCn
  | @otherStar x what isStar notFallback =>
      refine ⟨?_, fun _ => rfl, fun _ _ y cn isX isCn _ allowed => ?_⟩
      · rintro ⟨y, cn, isX, isCn, insertable⟩
        cases isX
        cases isStar.symm.trans isCn
        rw [if_pos rfl, notFallback] at insertable
        cases insertable
      · cases isX
        cases isStar.symm.trans isCn
        exact absurd allowed (by decide)
  | @refused x cn dnMap what named noStar refusal =>
      obtain ⟨rfl, name, member, refused⟩ := insertSSLCtxByDomainNames_error refusal
      refine ⟨?_, fun together => ?_, fun fresh same y cn' isX isCn _ allowed => ?_⟩
      · rintro ⟨y, cn', isX, isCn, insertable⟩
        cases isX
        cases named.symm.trans isCn
        rw [if_neg noStar, namesOf, named] at insertable
        exact refused (insertable rfl name member)
      · have cnRefused : ¬ Allowed cn := by
          intro allowed
          rcases List.mem_cons.mp member with rfl | other
          · exact refused allowed
          · exact refused (together x cn rfl named rfl allowed name other)
        rw [insertSSLCtxByDomainNames_refused cnRefused refusal]
      · cases isX
        cases named.symm.trans isCn
        have same : dnMap = contexts.dnMap := congrArg SslContexts.dnMap same
        exact absurd same (insertSSLCtxByDomainNames_changed fresh allowed refusal)

end insert

section add

theorem loadCert_x509 {loaded loaded' : Loaded} {cert : CertificateInfo}
    (done : loadCert ssl ctxConfig loaded cert = .ok loaded') :
    loaded'.x509 = (loadFiles ssl ctxConfig cert).toOption.join := by
  unfold loadCert at done
  split at done
  · cases done
  · cases done
  · rename_i x509 isX509
    rw [isX509]
    split at done
    · cases done
    · split at done
      · cases done
        rfl
      · split at done
        · cases done
        · dsimp only at done
          split at done
          · cases done
          · cases done
            rfl

theorem foldlM_loadCert_x509 {certs : List CertificateInfo} {loaded loaded' : Loaded}
    (done : certs.foldlM (loadCert ssl ctxConfig) loaded = .ok loaded') :
    loaded'.x509 = certs.getLast?.elim loaded.x509 fun cert => (loadFiles ssl ctxConfig cert).toOption.join := by
  induction certs generalizing loaded with
  | nil =>
      cases done
      rfl
  | cons cert certs ih =>
      rw [List.foldlM_cons] at done
      cases first : loadCert ssl ctxConfig loaded cert with
      | error what =>
          rw [first] at done
          cases done
      | ok next =>
          rw [first] at done
          rw [ih done, List.getLast?_cons, loadCert_x509 first]
          cases certs.getLast? with
          | none => rfl
          | some last => rfl

theorem loadConfig_x509 {loaded : Loaded} (done : loadConfig ssl ctxConfig = .ok loaded) :
    loaded.x509 = certificateOf ssl ctxConfig := by
  unfold loadConfig at done
  cases certs : ctxConfig.certificates.foldlM (loadCert ssl ctxConfig) {} with
  | error what =>
      rw [certs] at done
      cases done
  | ok found =>
      rw [certs] at done
      have same : found = loaded := by
        cases ciphers : ssl.ciphers ctxConfig.sslCiphers with
        | error what => simp [bind, Except.bind, ciphers] at done
        | ok _ =>
            cases client : loadClientCA ssl ctxConfig with
            | error what => simp [bind, Except.bind, ciphers, client] at done
            | ok _ => simpa [bind, Except.bind, ciphers, client, pure, Except.pure] using done
      rw [← same, foldlM_loadCert_x509 certs, certificateOf]
      cases ctxConfig.certificates.getLast? with
      | none => rfl
      | some cert => rfl

def setUp (ctxConfig : SSLContextConfig) (context : ServerSSLContext) (m : SSLContextManager) : SSLContextManager :=
  { m with noMatchFn := ctxConfig.sniNoMatchFn, heap := m.heap ++ [context] }

def withDefault (ctxConfig : SSLContextConfig) (sslCtx : Ctx) (contexts : SslContexts) : SslContexts :=
  if ctxConfig.isDefault then { contexts with defaultCtx := some sslCtx } else contexts

inductive Adds (ssl : OpenSSL) (ctxConfig : SSLContextConfig) (contexts : SslContexts) (m : SSLContextManager) :
    Outcome (SslContexts × SSLContextManager) → Prop
  | unloaded (what : String) (fails : ¬ Loads ssl ctxConfig) : Adds ssl ctxConfig contexts m (.error what (contexts, m))
  | secondDefault (what : String) (context : ServerSSLContext) (loads : Loads ssl ctxConfig)
      (isDefault : ctxConfig.isDefault = true) (taken : contexts.defaultCtx ≠ none) :
      Adds ssl ctxConfig contexts m (.error what (contexts, setUp ctxConfig context m))
  | refused (reason what : String) (context : ServerSSLContext) (contexts' : SslContexts) (loads : Loads ssl ctxConfig)
      (free : ctxConfig.isDefault = true → contexts.defaultCtx = none)
      (fails : SSLContextManager.insert m.strict m.heap.length (certificateOf ssl ctxConfig) ctxConfig.isDefault
        (withDefault ctxConfig m.heap.length contexts) = .error reason contexts') :
      Adds ssl ctxConfig contexts m (.error what (contexts', setUp ctxConfig context m))
  | added (context : ServerSSLContext) (contexts' : SslContexts) (loads : Loads ssl ctxConfig)
      (free : ctxConfig.isDefault = true → contexts.defaultCtx = none)
      (done : SSLContextManager.insert m.strict m.heap.length (certificateOf ssl ctxConfig) ctxConfig.isDefault
        (withDefault ctxConfig m.heap.length contexts) = .ok () contexts') :
      Adds ssl ctxConfig contexts m (.ok () (contexts', setUp ctxConfig context m))

variable (sha256 ssl seeds ctxConfig) in
theorem addTo_adds (contexts : SslContexts) (m : SSLContextManager) :
    Adds ssl ctxConfig contexts m (addTo sha256 ssl seeds ctxConfig (contexts, m)) := by
  cases loaded : loadConfig ssl ctxConfig with
  | error what =>
      simp only [addTo, makeContext, loaded, Except.map]
      exact .unloaded what (by simp [Loads, loaded, Except.isOk, Except.toBool])
  | ok result =>
      have loads : Loads ssl ctxConfig := by simp [Loads, loaded, Except.isOk, Except.toBool]
      simp only [addTo, makeContext, loaded, Except.map, loadConfig_x509 loaded, ctxSetupByOpensslFeature]
      cases isDefault : ctxConfig.isDefault with
      | true =>
          cases taken : contexts.defaultCtx with
          | some old =>
              simp only [if_true, Option.isSome_some]
              exact .secondDefault _ _ loads isDefault (by simp [taken])
          | none =>
              have start : withDefault ctxConfig m.heap.length contexts = { contexts with defaultCtx := some m.heap.length } := by
                rw [withDefault, if_pos isDefault]
              simp only [if_true, Option.isSome_none, Bool.false_eq_true, if_false]
              split
              · rename_i fails
                exact .refused _ _ _ _ loads (fun _ => taken) (by rw [start, isDefault]; exact fails)
              · rename_i done
                exact .added _ _ loads (fun _ => taken) (by rw [start, isDefault]; exact done)
      | false =>
          have start : withDefault ctxConfig m.heap.length contexts = contexts := by
            rw [withDefault, if_neg (by simp [isDefault])]
          simp only [Bool.false_eq_true, if_false]
          split
          · rename_i fails
            exact .refused _ _ _ _ loads (by simp [isDefault]) (by rw [start, isDefault]; exact fails)
          · rename_i done
            exact .added _ _ loads (by simp [isDefault]) (by rw [start, isDefault]; exact done)

theorem withDefault_dnMap (ctxConfig : SSLContextConfig) (sslCtx : Ctx) (contexts : SslContexts) :
    (withDefault ctxConfig sslCtx contexts).dnMap = contexts.dnMap := by
  unfold withDefault
  split <;> rfl

theorem Tracked.insert (tracked : Tracked contexts)
    (done : SSLContextManager.insert strict sslCtx x509 isDefault (withDefault ctxConfig sslCtx contexts) =
      .ok () contexts') : Tracked contexts' := by
  obtain ⟨ctxs, -⟩ := insert_ok done
  obtain ⟨defaultCtx, dnMap⟩ := insert_kept done
  change contexts'.defaultCtx = _ at defaultCtx
  have sameCtxs : (withDefault ctxConfig sslCtx contexts).ctxs = contexts.ctxs := by
    unfold withDefault
    split <;> rfl
  rw [sameCtxs] at ctxs
  constructor
  · intro ctx isDefault
    rw [ctxs, List.mem_append, List.mem_singleton]
    rw [defaultCtx, withDefault] at isDefault
    split at isDefault
    · exact .inr (Option.some.inj isDefault).symm
    · exact .inl (tracked.defaultCtx ctx isDefault)
  · intro key ctx found
    rw [ctxs, List.mem_append, List.mem_singleton]
    rcases dnMap key ctx found with new | old
    · exact .inr new
    · rw [withDefault_dnMap] at old
      exact .inl (tracked.dnMap key ctx old)

theorem addTo_tracked (tracked : Tracked contexts)
    (done : addTo sha256 ssl seeds ctxConfig (contexts, m) = .ok () (contexts', m')) : Tracked contexts' := by
  have adds := addTo_adds sha256 ssl seeds ctxConfig contexts m
  rw [done] at adds
  cases adds with
  | added context contexts' loads free inserted => exact tracked.insert inserted

theorem addTo_error (failed : addTo sha256 ssl seeds ctxConfig (m.contexts, m) = .error what (contexts', m')) :
    (AllOrNothing ssl ctxConfig m → contexts' = m.contexts) ∧
      (Made m.contexts m.heap.length → contexts' = m.contexts → AllOrNothing ssl ctxConfig m) := by
  have adds := addTo_adds sha256 ssl seeds ctxConfig m.contexts m
  rw [failed] at adds
  cases adds with
  | unloaded what fails => exact ⟨fun _ => rfl, fun _ _ loads => absurd loads fails⟩
  | secondDefault what context loads isDefault taken =>
      exact ⟨fun _ => rfl, fun _ _ _ free => absurd (free isDefault) taken⟩
  | refused reason what context contexts' loads free fails =>
      obtain ⟨notInserted, kept, together⟩ := insert_error fails
      cases isDefault : ctxConfig.isDefault with
      | true =>
          rw [isDefault] at notInserted
          refine ⟨fun whole => absurd ((whole loads free).2 isDefault) notInserted, fun _ same => ?_⟩
          have changed : contexts'.defaultCtx = _ := (insert_kept fails).1
          rw [same, withDefault, if_pos isDefault, free isDefault] at changed
          cases changed
      | false =>
          have start : withDefault ctxConfig m.heap.length m.contexts = m.contexts := by
            rw [withDefault, if_neg (by simp [isDefault])]
          rw [start] at kept together
          refine ⟨fun whole => kept (whole loads free).1, fun made same _ _ => ⟨together (fun key there => ?_) same, ?_⟩⟩
          · exact Nat.lt_irrefl _ (made key _ there)
          · simp [isDefault]

variable (sha256 ssl seeds ctxConfig) in
theorem addTo_made (s : SslContexts × SSLContextManager) (made : Made s.1 s.2.heap.length) :
    Made (written (addTo sha256 ssl seeds ctxConfig s)).1 (written (addTo sha256 ssl seeds ctxConfig s)).2.heap.length := by
  have adds := addTo_adds sha256 ssl seeds ctxConfig s.1 s.2
  generalize addTo sha256 ssl seeds ctxConfig s = outcome at adds ⊢
  have grown (context : ServerSSLContext) : (setUp ctxConfig context s.2).heap.length = s.2.heap.length + 1 := by
    simp [setUp]
  have inserted {outcome : Outcome SslContexts} (context : ServerSSLContext)
      (done : SSLContextManager.insert s.2.strict s.2.heap.length (certificateOf ssl ctxConfig) ctxConfig.isDefault
        (withDefault ctxConfig s.2.heap.length s.1) = outcome) :
      Made (written outcome) (setUp ctxConfig context s.2).heap.length := by
    intro key ctx found
    rw [grown, Nat.lt_succ_iff]
    rcases (insert_kept done).2 key ctx found with rfl | old
    · exact Nat.le_refl _
    · rw [withDefault_dnMap] at old
      exact Nat.le_of_lt (made key ctx old)
  cases adds with
  | unloaded what fails => exact made
  | secondDefault what context loads isDefault taken =>
      intro key ctx found
      exact Nat.lt_of_lt_of_eq (Nat.lt_succ_of_lt (made key ctx found)) (grown context).symm
  | refused reason what context contexts' loads free fails => exact inserted context fails
  | added context contexts' loads free done => exact inserted context done

variable (sha256 ssl seeds ctxConfig) in
theorem addTo_contexts (s : SslContexts × SSLContextManager) :
    (written (addTo sha256 ssl seeds ctxConfig s)).2.contexts = s.2.contexts := by
  have adds := addTo_adds sha256 ssl seeds ctxConfig s.1 s.2
  generalize addTo sha256 ssl seeds ctxConfig s = outcome at adds ⊢
  cases adds <;> rfl

theorem addAll_tracked {ctxConfigs : List SSLContextConfig} {s s' : SslContexts × SSLContextManager}
    (tracked : Tracked s.1) (done : addAll sha256 ssl seeds ctxConfigs s = .ok () s') : Tracked s'.1 := by
  induction ctxConfigs generalizing s with
  | nil =>
      cases done
      exact tracked
  | cons ctxConfig ctxConfigs ih =>
      rw [addAll] at done
      cases first : addTo sha256 ssl seeds ctxConfig s with
      | error what next =>
          rw [first] at done
          cases done
      | ok _ next =>
          rw [first] at done
          exact ih (@addTo_tracked sha256 ssl seeds ctxConfig s.1 next.1 s.2 next.2 tracked first) done

variable (sha256 ssl seeds) in
theorem addAll_rule {I : SslContexts × SSLContextManager → Prop} (ctxConfigs : List SSLContextConfig)
    {s : SslContexts × SSLContextManager}
    (kept : ∀ ctxConfig s, I s → I (written (addTo sha256 ssl seeds ctxConfig s))) (start : I s) :
    I (written (addAll sha256 ssl seeds ctxConfigs s)) := by
  induction ctxConfigs generalizing s with
  | nil => exact start
  | cons ctxConfig ctxConfigs ih =>
      have next := kept ctxConfig s start
      rw [addAll]
      cases first : addTo sha256 ssl seeds ctxConfig s with
      | error what s' =>
          rw [first] at next
          exact next
      | ok _ s' =>
          rw [first] at next
          exact ih next

variable (sha256 ssl seeds) in
theorem resetSSLContextConfigs_cases (ctxConfigs : List SSLContextConfig) (m : SSLContextManager) :
    (written (resetSSLContextConfigs sha256 ssl seeds ctxConfigs m)).contexts = m.contexts ∧
        (written (resetSSLContextConfigs sha256 ssl seeds ctxConfigs m)).heap = m.heap ∨
      ∃ s, addAll sha256 ssl (some (seeds.getD m.oldTicketSeeds)) ctxConfigs ({}, m) = .ok () s ∧
        (written (resetSSLContextConfigs sha256 ssl seeds ctxConfigs m)).contexts = s.1 ∧
        (written (resetSSLContextConfigs sha256 ssl seeds ctxConfigs m)).heap = s.2.heap := by
  have kept := addAll_rule sha256 ssl (some (seeds.getD m.oldTicketSeeds)) (I := fun s => s.2.contexts = m.contexts) ctxConfigs
    (fun ctxConfig s same => (addTo_contexts _ _ _ ctxConfig s).trans same) (s := ({}, m)) rfl
  unfold resetSSLContextConfigs
  cases added : addAll sha256 ssl (some (seeds.getD m.oldTicketSeeds)) ctxConfigs ({}, m) with
  | error what s =>
      rw [added] at kept
      simp only [added]
      exact .inl ⟨kept, rfl⟩
  | ok _ s =>
      simp only [added]
      exact .inr ⟨s, rfl, rfl, rfl⟩

end add

section runs

/-- A configuration that is added by itself is added as a whole or not at all. -/
def Clean (m : SSLContextManager) : Op → Prop
  | .addSSLContextConfig ssl _ ctxConfig => AllOrNothing ssl ctxConfig m
  | .resetSSLContextConfigs .. => True
  | .clear => True
  | .reloadTLSTicketKeys _ => True

def Selectable (m : SSLContextManager) (ctx : Ctx) : Prop :=
  m.contexts.defaultCtx = some ctx ∨ ∃ key : SSLContextKey, m.contexts.dnMap[key]? = some ctx

variable (sha256) in
def ReceivesKeys (m : SSLContextManager) (ctx : Ctx) : Prop :=
  ∀ seeds context, m.heap[ctx]? = some context → ∃ context',
    (m.reloadTLSTicketKeys sha256 seeds).heap[ctx]? = some context' ∧
      context'.ticketManager.isSome = context.ticketManager.isSome ∧
      ∀ tmgr, context'.ticketManager = some tmgr → Configured sha256 seeds tmgr

theorem addSSLContextConfig_error (failed : addSSLContextConfig sha256 ssl seeds ctxConfig m = .error what m') :
    (AllOrNothing ssl ctxConfig m → m'.contexts = m.contexts) ∧
      (Made m.contexts m.heap.length → m'.contexts = m.contexts → AllOrNothing ssl ctxConfig m) := by
  unfold addSSLContextConfig at failed
  cases result : addTo sha256 ssl seeds ctxConfig (m.contexts, m) with
  | error reason s =>
      rw [result] at failed
      cases failed
      exact addTo_error result
  | ok _ s =>
      rw [result] at failed
      cases failed

theorem addSSLContextConfig_tracked (tracked : Tracked m.contexts) (clean : AllOrNothing ssl ctxConfig m) :
    Tracked (written (addSSLContextConfig sha256 ssl seeds ctxConfig m)).contexts := by
  cases result : addSSLContextConfig sha256 ssl seeds ctxConfig m with
  | error what m' =>
      rw [written, (addSSLContextConfig_error result).1 clean]
      exact tracked
  | ok _ m' =>
      unfold addSSLContextConfig at result
      cases added : addTo sha256 ssl seeds ctxConfig (m.contexts, m) with
      | error what s =>
          rw [added] at result
          cases result
      | ok _ s =>
          rw [added] at result
          cases result
          exact addTo_tracked tracked added

theorem tracked_empty : Tracked {} where
  defaultCtx := by
    intro ctx isDefault
    cases isDefault
  dnMap := by
    intro key ctx found
    simp at found

theorem length_foldl_modify {α : Type} (f : α → α) (l : List Nat) (heap : List α) :
    (l.foldl (fun heap j => heap.modify j f) heap).length = heap.length := by
  induction l generalizing heap with
  | nil => rfl
  | cons j l ih => rw [List.foldl_cons, ih, List.length_modify]

theorem step_made {op : Op} (made : Made m.contexts m.heap.length) (taken : step sha256 m op = .ok m') :
    Made m'.contexts m'.heap.length := by
  cases op with
  | addSSLContextConfig ssl seeds ctxConfig =>
      cases taken
      have added := addTo_made sha256 ssl seeds ctxConfig (m.contexts, m) made
      unfold addSSLContextConfig
      cases result : addTo sha256 ssl seeds ctxConfig (m.contexts, m) <;> rwa [result] at added
  | resetSSLContextConfigs ssl seeds ctxConfigs =>
      cases taken
      obtain ⟨contexts, heap⟩ | ⟨s, added, contexts, heap⟩ := resetSSLContextConfigs_cases sha256 ssl seeds ctxConfigs m
      · rw [contexts, heap]
        exact made
      · have all := addAll_rule sha256 ssl (some (seeds.getD m.oldTicketSeeds)) (I := fun s => Made s.1 s.2.heap.length)
          ctxConfigs (fun ctxConfig => addTo_made _ _ _ ctxConfig) (s := ({}, m)) fun key ctx found => by simp at found
        rw [added] at all
        rw [contexts, heap]
        exact all
  | clear =>
      cases taken
      exact fun key ctx found => by simp [clear] at found
  | reloadTLSTicketKeys next =>
      cases taken
      rw [reloadTLSTicketKeys, length_foldl_modify]
      exact made

theorem getElem?_foldl_modify {α : Type} (f : α → α) (l : List Nat) (heap : List α) (i : Nat) :
    (l.foldl (fun heap j => heap.modify j f) heap)[i]? = heap[i]?.map f^[l.count i] := by
  induction l generalizing heap with
  | nil => simp
  | cons j l ih =>
      rw [List.foldl_cons, ih, List.getElem?_modify, List.count_cons]
      by_cases same : j = i
      · simp [same, Function.comp_def]
      · simp [same]

theorem reloadTicketManager_iterate (next : TLSTicketKeySeeds) (n : Nat) (context : ServerSSLContext) :
    ((reloadTicketManager sha256 next)^[n] context).ticketManager.isSome = context.ticketManager.isSome := by
  induction n with
  | zero => rfl
  | succ n ih => rw [Function.iterate_succ_apply', reloadTicketManager, Option.isSome_map, ih]

theorem receivesKeys {ctx : Ctx} (member : ctx ∈ m.contexts.ctxs) : ReceivesKeys sha256 m ctx := by
  intro next context isContext
  obtain ⟨n, isCount⟩ := Nat.exists_eq_succ_of_ne_zero (List.count_pos_iff.mpr member).ne'
  refine ⟨(reloadTicketManager sha256 next)^[n + 1] context, ?_, reloadTicketManager_iterate next (n + 1) context, ?_⟩
  · rw [reloadTLSTicketKeys, getElem?_foldl_modify, isContext, isCount]
    rfl
  · intro tmgr isManager
    rw [Function.iterate_succ_apply', reloadTicketManager, Option.map_eq_some_iff] at isManager
    obtain ⟨before, -, rfl⟩ := isManager
    exact setTLSTicketKeySeeds_configured next before

theorem step_tracked {op : Op} (tracked : Tracked m.contexts) (clean : Clean m op) (taken : step sha256 m op = .ok m') :
    Tracked m'.contexts := by
  cases op with
  | addSSLContextConfig ssl seeds ctxConfig =>
      cases taken
      exact addSSLContextConfig_tracked tracked clean
  | resetSSLContextConfigs ssl seeds ctxConfigs =>
      cases taken
      obtain ⟨contexts, -⟩ | ⟨s, added, contexts, -⟩ := resetSSLContextConfigs_cases sha256 ssl seeds ctxConfigs m
      · rwa [contexts]
      · rw [contexts]
        exact addAll_tracked tracked_empty added
  | clear =>
      cases taken
      exact tracked_empty
  | reloadTLSTicketKeys next =>
      cases taken
      exact tracked

end runs

/-- A configuration that cannot be added leaves the contexts as they are if, and for a manager that has been filled by
its own functions only if, its writes can be made together; and if all are so, every context that can be selected
receives the ticket keys. -/
theorem failed_add_changes_nothing (sha256 : Bytes → Digest) :
    (∀ ssl seeds ctxConfig m what m', addSSLContextConfig sha256 ssl seeds ctxConfig m = .error what m' →
      (AllOrNothing ssl ctxConfig m → m'.contexts = m.contexts) ∧
        (Made m.contexts m.heap.length → (m'.contexts = m.contexts ↔ AllOrNothing ssl ctxConfig m))) ∧
    ∀ start ops m, start.contexts = {} → run sha256 start ops = .ok m → Made m.contexts m.heap.length ∧
      (Along (step sha256) Clean start ops →
        ∀ ctx, Selectable m ctx → ctx ∈ m.contexts.ctxs ∧ ReceivesKeys sha256 m ctx) := by
  constructor
  · intro ssl seeds ctxConfig m what m' failed
    obtain ⟨kept, whole⟩ := addSSLContextConfig_error failed
    exact ⟨kept, fun made => ⟨whole made, kept⟩⟩
  · intro start ops m isNew done
    have unmade : Made start.contexts start.heap.length := by
      rw [isNew]
      exact fun key ctx found => by simp at found
    refine ⟨?_, fun along ctx selectable => ?_⟩
    · exact run_invariant (I := fun m => Made m.contexts m.heap.length)
        (fun m op m' made _ taken => step_made made taken) unmade (along_true start ops) done
    · have tracked : Tracked m.contexts := run_invariant (I := fun m => Tracked m.contexts)
        (fun m op m' tracked clean taken => step_tracked tracked clean taken) (isNew ▸ tracked_empty) along done
      have member : ctx ∈ m.contexts.ctxs :=
        selectable.elim (tracked.defaultCtx ctx) fun ⟨key, found⟩ => tracked.dnMap key ctx found
      exact ⟨member, receivesKeys member⟩

section examples

def loading (x509 : X509) : OpenSSL where
  loadCertKeyPairFromFiles _ := .ok (some x509)
  loadCertificate _ := .ok (some x509)
  ciphers _ := .ok ()
  loadClientCA _ := .ok ()

def oneName : X509 := ⟨some ['a'], none, .other 0⟩

def starInSecondName : X509 := ⟨some ['a'], some [['b', '*']], .other 0⟩

def defaultConfig : SSLContextConfig where
  certificates := [⟨"cert", "key", ""⟩]
  sslCiphers := ""
  isDefault := true

def noCertificate : SSLContextConfig where
  certificates := []
  sslCiphers := ""
  isDefault := true
  sniNoMatchFn := some 2

end examples

theorem failed_add_changes_nothing_second_default :
    ∃ m what m', run padded {} [.addSSLContextConfig (loading oneName) none defaultConfig] = .ok m ∧
      Selectable m 0 ∧ ReceivesKeys padded m 0 ∧
      addSSLContextConfig padded (loading oneName) none defaultConfig m = .error what m' ∧ m'.contexts = m.contexts := by
  obtain ⟨unchanged, reached⟩ := failed_add_changes_nothing padded
  have clean : AllOrNothing (loading oneName) defaultConfig {} := by
    have isCertificate : certificateOf (loading oneName) defaultConfig = some oneName := rfl
    have allowed : ∀ name ∈ namesOf oneName, Allowed name := by decide
    rw [AllOrNothing, isCertificate]
    refine fun _ _ => ⟨fun x cn isX isCn _ _ name member => ?_, fun _ => ⟨oneName, ['a'], rfl, rfl, fun _ => allowed⟩⟩
    cases isX
    cases member
  have taken : (written (addSSLContextConfig padded (loading oneName) none defaultConfig {})).contexts.defaultCtx = some 0 := rfl
  have selectable : Selectable (written (addSSLContextConfig padded (loading oneName) none defaultConfig {})) 0 := .inl taken
  have received := (reached {} [.addSSLContextConfig (loading oneName) none defaultConfig] _ rfl rfl).2
    ⟨clean, fun _ _ => trivial⟩ 0 selectable
  refine ⟨_, _, _, rfl, selectable, received.2, rfl, (unchanged (loading oneName) none defaultConfig _ _ _ rfl).1 ?_⟩
  exact fun _ free => absurd ((free rfl).symm.trans taken) (Option.some_ne_none 0).symm

/-- A certificate with a star in its second name is refused, and its context is selected all the same. So is that of a
configuration without a certificate, if it is the default one. -/
theorem failed_add_leaves_context :
    (∃ what m', addSSLContextConfig padded (loading starInSecondName) none defaultConfig {} = .error what m' ∧
      m'.contexts.ctxs = [] ∧ m'.contexts.defaultCtx = some 0 ∧
      lookup ['a'] .bestAvailable m'.contexts.dnMap = some 0) ∧
    ∃ what m', addSSLContextConfig padded (loading oneName) none noCertificate { strict := false } = .error what m' ∧
      m'.contexts.ctxs = [] ∧ m'.contexts.defaultCtx = some 0 := by
  refine ⟨⟨_, _, rfl, rfl, rfl, ?_⟩, _, _, rfl, rfl, rfl⟩
  show lookup ['a'] .bestAvailable (insertName ['a'] 0 .bestAvailable ∅) = some 0
  rw [lookup_insertName_best]
  decide

end Wangle.Proof.Ssl
