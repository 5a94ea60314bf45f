import Wangle.Spec.HostNames
import Wangle.Ssl.SSLContextManager

/-!
# The contexts that are inserted by name
-/

namespace Wangle.Proof.Ssl
open Wangle.Ssl Wangle.Keyed Wangle.Spec Wangle.Transition SSLContextManager

structure Insertion where
  dn : List Char
  sslCtx : Ctx
  certCrypto : CertCrypto
  deriving DecidableEq

def insertStep (strict : Bool) (dnMap : DnMap) (insertion : Insertion) : Except Empty DnMap :=
  .ok (written (insertSSLCtxByDomainName strict insertion.dn insertion.sslCtx insertion.certCrypto dnMap))

def isNamed (name : DNString) : Except String DNString → Bool
  | .ok dnstr => decide (SameName dnstr name)
  | .error _ => false

def Under (name : DNString) (insertion : Insertion) : Prop := isNamed name (insertedName insertion.dn) = true

instance (name : DNString) (insertion : Insertion) : Decidable (Under name insertion) :=
  inferInstanceAs (Decidable (_ = _))

def Weak (name : DNString) (insertion : Insertion) : Prop :=
  Under name insertion ∧ insertion.certCrypto = .sha1Signature

def Strong (name : DNString) (insertion : Insertion) : Prop :=
  Under name insertion ∧ insertion.certCrypto = .bestAvailable

instance (name : DNString) : DecidablePred (Weak name) := fun _ => inferInstanceAs (Decidable (_ ∧ _))

instance (name : DNString) : DecidablePred (Strong name) := fun _ => inferInstanceAs (Decidable (_ ∧ _))

def latestCtx (p : Insertion → Prop) [DecidablePred p] (insertions : List Insertion) : Option Ctx :=
  (latest p insertions).map Insertion.sslCtx

abbrev lookup (name : DNString) (certCrypto : CertCrypto) (dnMap : DnMap) : Option Ctx :=
  dnMap[SSLContextKey.mk name certCrypto]?

variable {strict : Bool} {dnMap dnMap' : DnMap} {insertion : Insertion} {insertions : List Insertion}

theorem latestCtx_concat (p : Insertion → Prop) [DecidablePred p] (insertion : Insertion) (insertions : List Insertion) :
    latestCtx p (insertions ++ [insertion]) = if p insertion then some insertion.sslCtx else latestCtx p insertions := by
  rw [latestCtx, latest_concat]
  split <;> rfl

theorem getElem?_insertIntoDnMap (key k : SSLContextKey) (sslCtx : Ctx) (overwrite : Bool) (dnMap : DnMap) :
    (insertIntoDnMap key sslCtx overwrite dnMap)[k]? =
      if key == k then some (if overwrite then sslCtx else dnMap[k]?.getD sslCtx) else dnMap[k]? := by
  unfold insertIntoDnMap
  have inserted : (dnMap.insert key sslCtx)[k]? = if key == k then some sslCtx else dnMap[k]? :=
    Std.HashMap.getElem?_insert
  by_cases same : (key == k) = true
  · have there : dnMap[key]? = dnMap[k]? := Std.HashMap.getElem?_congr same
    rw [if_pos same] at inserted
    rw [if_pos same, there]
    cases found : dnMap[k]? with
    | none =>
        show (dnMap.insert key sslCtx)[k]? = _
        simp [inserted]
    | some v =>
        by_cases equal : v = sslCtx
        · simp [equal, found]
        · cases overwrite with
          | true => simpa [equal] using inserted
          | false => simp [equal, found]
  · rw [if_neg same] at inserted
    rw [if_neg same]
    cases dnMap[key]? with
    | none => exact inserted
    | some v =>
        by_cases equal : v = sslCtx
        · simp [equal]
        · cases overwrite with
          | true => simpa [equal] using inserted
          | false => simp [equal]

theorem key_beq (a b : DNString) (x y : CertCrypto) :
    (SSLContextKey.mk a x == SSLContextKey.mk b y) = decide (SameName a b ∧ x = y) := by
  rw [Bool.eq_iff_iff, SSLContextKey.beq_iff, decide_eq_true_eq]
  rfl

theorem lookup_insertName_sha1 (dnstr name : DNString) (sslCtx : Ctx) (certCrypto : CertCrypto) (dnMap : DnMap) :
    lookup name .sha1Signature (insertName dnstr sslCtx certCrypto dnMap) =
      if SameName dnstr name ∧ certCrypto = .sha1Signature then some sslCtx else lookup name .sha1Signature dnMap := by
  cases certCrypto with
  | bestAvailable => simp [insertName, lookup, getElem?_insertIntoDnMap, key_beq]
  | sha1Signature => simp [insertName, lookup, getElem?_insertIntoDnMap, key_beq]

theorem lookup_insertName_best (dnstr name : DNString) (sslCtx : Ctx) (certCrypto : CertCrypto) (dnMap : DnMap) :
    lookup name .bestAvailable (insertName dnstr sslCtx certCrypto dnMap) =
      if SameName dnstr name then
        some (if certCrypto = .bestAvailable then sslCtx else (lookup name .bestAvailable dnMap).getD sslCtx)
      else lookup name .bestAvailable dnMap := by
  cases certCrypto with
  | bestAvailable => simp [insertName, lookup, getElem?_insertIntoDnMap, key_beq]
  | sha1Signature => simp [insertName, lookup, getElem?_insertIntoDnMap, key_beq]

theorem insertSSLCtxByDomainName_accepted {dn : List Char} {dnstr : DNString} (accepted : insertedName dn = .ok dnstr)
    (strict : Bool) (sslCtx : Ctx) (certCrypto : CertCrypto) (dnMap : DnMap) :
    insertSSLCtxByDomainName strict dn sslCtx certCrypto dnMap = .ok () (insertName dnstr sslCtx certCrypto dnMap) := by
  rw [insertSSLCtxByDomainName, insertSSLCtxByDomainNameImpl, accepted]
  rfl

theorem insertSSLCtxByDomainName_refused {dn : List Char} {what : String} (refused : insertedName dn = .error what)
    (strict : Bool) (sslCtx : Ctx) (certCrypto : CertCrypto) (dnMap : DnMap) :
    insertSSLCtxByDomainName strict dn sslCtx certCrypto dnMap = if strict then .error what dnMap else .ok () dnMap := by
  rw [insertSSLCtxByDomainName, insertSSLCtxByDomainNameImpl, refused]
  rfl

theorem written_refused {dn : List Char} {what : String} (refused : insertedName dn = .error what)
    (strict : Bool) (sslCtx : Ctx) (certCrypto : CertCrypto) (dnMap : DnMap) :
    written (insertSSLCtxByDomainName strict dn sslCtx certCrypto dnMap) = dnMap := by
  rw [insertSSLCtxByDomainName_refused refused]
  cases strict with
  | true => rfl
  | false => rfl

theorem insertStep_sha1 (taken : insertStep strict dnMap insertion = .ok dnMap') (name : DNString) :
    lookup name .sha1Signature dnMap' =
      if Weak name insertion then some insertion.sslCtx else lookup name .sha1Signature dnMap := by
  cases taken
  cases accepted : insertedName insertion.dn with
  | ok dnstr =>
      rw [insertSSLCtxByDomainName_accepted accepted, written, lookup_insertName_sha1]
      simp [Weak, Under, isNamed, accepted]
  | error what =>
      rw [written_refused accepted]
      simp [Weak, Under, isNamed, accepted]

theorem insertStep_best (taken : insertStep strict dnMap insertion = .ok dnMap') (name : DNString) :
    lookup name .bestAvailable dnMap' =
      if Strong name insertion then some insertion.sslCtx
      else if Weak name insertion then some ((lookup name .bestAvailable dnMap).getD insertion.sslCtx)
      else lookup name .bestAvailable dnMap := by
  cases taken
  cases accepted : insertedName insertion.dn with
  | error what =>
      rw [written_refused accepted]
      simp [Weak, Strong, Under, isNamed, accepted]
  | ok dnstr =>
      rw [insertSSLCtxByDomainName_accepted accepted, written, lookup_insertName_best]
      cases crypto : insertion.certCrypto with
      | bestAvailable => simp [Weak, Strong, Under, isNamed, accepted, crypto]
      | sha1Signature => simp [Weak, Strong, Under, isNamed, accepted, crypto]

/-- The best context for the name is not one with a SHA-1 signature, unless it is this one. -/
def ReplacesNoWeak (dnMap : DnMap) (insertion : Insertion) : Prop :=
  ∀ name, Weak name insertion → ∀ ctx, lookup name .bestAvailable dnMap = some ctx →
    lookup name .sha1Signature dnMap = some ctx → ctx = insertion.sslCtx

structure Current (insertions : List Insertion) (dnMap : DnMap) : Prop where
  sha1 : ∀ name, lookup name .sha1Signature dnMap = latestCtx (Weak name) insertions
  best : ∀ name, lookup name .bestAvailable dnMap =
    (latestCtx (Strong name) insertions).or (latestCtx (Weak name) insertions)

theorem Current.insert (current : Current insertions dnMap) (replaces : ReplacesNoWeak dnMap insertion)
    (taken : insertStep strict dnMap insertion = .ok dnMap') : Current (insertions ++ [insertion]) dnMap' where
  sha1 := by
    intro name
    rw [insertStep_sha1 taken, latestCtx_concat, current.sha1]
  best := by
    intro name
    rw [insertStep_best taken, latestCtx_concat, latestCtx_concat]
    by_cases strong : Strong name insertion
    · simp [strong]
    · by_cases weak : Weak name insertion
      · have kept := replaces name weak
        rw [current.best, current.sha1] at kept
        rw [current.best]
        simp only [strong, weak, if_true, if_false]
        cases strongest : latestCtx (Strong name) insertions with
        | some ctx => simp
        | none =>
            cases weakest : latestCtx (Weak name) insertions with
            | none => simp
            | some ctx => simp [kept ctx (by simp [strongest, weakest]) weakest]
      · simp [strong, weak, current.best]

/-- The best context for a name is the latest one with a stronger signature, or else the latest one. A context with a
SHA-1 signature must not be inserted over another one. -/
theorem best_available_is_current (strict : Bool) (insertions : List Insertion) (dnMap : DnMap)
    (along : Along (insertStep strict) ReplacesNoWeak ∅ insertions)
    (done : Transition.run (insertStep strict) ∅ insertions = .ok dnMap) (name : DNString) :
    lookup name .bestAvailable dnMap = (latestCtx (Strong name) insertions).or (latestCtx (Weak name) insertions) ∧
      lookup name .sha1Signature dnMap = latestCtx (Weak name) insertions := by
  have start : Current [] ∅ := ⟨fun name => by simp [lookup, latestCtx], fun name => by simp [lookup, latestCtx]⟩
  have current : Current ([] ++ insertions) dnMap :=
    run_history (fun past s op s' current replaces taken => current.insert replaces taken) start along done
  exact ⟨current.best name, current.sha1 name⟩

section examples

def host : List Char := ['a']

theorem best_available_is_current_sha1_later :
    ∃ dnMap, Transition.run (insertStep true) ∅ [⟨host, 1, .bestAvailable⟩, ⟨host, 2, .sha1Signature⟩] = .ok dnMap ∧
      lookup host .bestAvailable dnMap = some 1 ∧ lookup host .sha1Signature dnMap = some 2 := by
  have along : Along (insertStep true) ReplacesNoWeak ∅ [⟨host, 1, .bestAvailable⟩, ⟨host, 2, .sha1Signature⟩] := by
    refine ⟨fun name weak => by simp [Weak] at weak, fun dnMap taken => ⟨fun name weak ctx best sha1 => ?_, ?_⟩⟩
    · rw [insertStep_sha1 taken] at sha1
      simp [Weak, lookup] at sha1
    · exact fun _ _ => trivial
  obtain ⟨best, sha1⟩ := best_available_is_current true _ _ along rfl host
  exact ⟨_, rfl, best, sha1⟩

theorem newer_sha1_is_not_best :
    ∃ dnMap, Transition.run (insertStep true) ∅ [⟨host, 1, .sha1Signature⟩, ⟨host, 2, .sha1Signature⟩] = .ok dnMap ∧
      latestCtx (Weak host) [⟨host, 1, .sha1Signature⟩, ⟨host, 2, .sha1Signature⟩] = some 2 ∧
      latestCtx (Strong host) [⟨host, 1, .sha1Signature⟩, ⟨host, 2, .sha1Signature⟩] = none ∧
      lookup host .bestAvailable dnMap = some 1 ∧ lookup host .sha1Signature dnMap = some 2 := by
  refine ⟨_, rfl, by decide, by decide, ?_, ?_⟩
  · rw [insertStep_best rfl, insertStep_best rfl]
    simp [Strong, Weak, lookup]
    decide
  · rw [insertStep_sha1 rfl]
    decide

end examples

end Wangle.Proof.Ssl
