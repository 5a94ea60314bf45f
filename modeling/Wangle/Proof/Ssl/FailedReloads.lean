import Mathlib.Algebra.Order.BigOperators.Group.List
import Wangle.Proof.Ssl.ContextConfigs

/-!
# Reloads that fail

A reload collects its contexts aside, and its callback in the manager itself.
-/

namespace Wangle.Proof.Ssl
open Wangle.Ssl SSLContextManager

variable {sha256 : Bytes → Digest} {ssl : OpenSSL} {seeds : Option TLSTicketKeySeeds} {ctxConfig : SSLContextConfig}
  {ctxConfigs : List SSLContextConfig} {m m' : SSLContextManager} {what : String} {strict hasDefault : Bool}

instance : Decidable (Loads ssl ctxConfig) := inferInstanceAs (Decidable (_ = _))

instance (strict isDefault : Bool) : (x509 : Option X509) → Decidable (Insertable strict isDefault x509)
  | none => isFalse fun ⟨_, _, isX, _⟩ => by cases isX
  | some ⟨none, _, _⟩ => isFalse fun ⟨_, _, isX, isCn, _⟩ => by cases isX; cases isCn
  | some ⟨some cn, altName, nid⟩ =>
      decidable_of_iff (if cn = ['*'] then isDefault = true
        else strict = true → ∀ name ∈ namesOf ⟨some cn, altName, nid⟩, Allowed name)
        ⟨fun insertable => ⟨_, cn, rfl, rfl, insertable⟩, fun ⟨_, _, isX, isCn, insertable⟩ => by
          cases isX
          cases isCn
          exact insertable⟩

def Fails (ssl : OpenSSL) (strict hasDefault : Bool) (ctxConfig : SSLContextConfig) : Prop :=
  ¬ Loads ssl ctxConfig ∨ (ctxConfig.isDefault = true ∧ hasDefault = true) ∨
    ¬ Insertable strict ctxConfig.isDefault (certificateOf ssl ctxConfig)

instance : Decidable (Fails ssl strict hasDefault ctxConfig) := inferInstanceAs (Decidable (_ ∨ _))

/-- The configurations up to the first that cannot be added. -/
def tried (ssl : OpenSSL) (strict : Bool) : Bool → List SSLContextConfig → List SSLContextConfig
  | _, [] => []
  | hasDefault, ctxConfig :: ctxConfigs =>
      if Fails ssl strict hasDefault ctxConfig then [ctxConfig]
      else ctxConfig :: tried ssl strict (hasDefault || ctxConfig.isDefault) ctxConfigs

def lastLoaded (ssl : OpenSSL) (strict hasDefault : Bool) (ctxConfigs : List SSLContextConfig) : Option SSLContextConfig :=
  ((tried ssl strict hasDefault ctxConfigs).filter fun ctxConfig => decide (Loads ssl ctxConfig)).getLast?

theorem lastLoaded_of_fails (fails : Fails ssl strict hasDefault ctxConfig) :
    lastLoaded ssl strict hasDefault (ctxConfig :: ctxConfigs) = if Loads ssl ctxConfig then some ctxConfig else none := by
  rw [lastLoaded, tried, if_pos fails]
  split <;> simp [*]

theorem lastLoaded_of_adds (adds : ¬ Fails ssl strict hasDefault ctxConfig) :
    lastLoaded ssl strict hasDefault (ctxConfig :: ctxConfigs) =
      some ((lastLoaded ssl strict (hasDefault || ctxConfig.isDefault) ctxConfigs).getD ctxConfig) := by
  have loads : Loads ssl ctxConfig := Classical.not_not.mp fun unloaded => adds (.inl unloaded)
  rw [lastLoaded, tried, if_neg adds, List.filter_cons_of_pos (by simpa using loads), List.getLast?_cons, lastLoaded]

theorem addAll_error {s s' : SslContexts × SSLContextManager}
    (failed : addAll sha256 ssl seeds ctxConfigs s = .error what s') (heap : List ServerSSLContext) :
    { s'.2 with heap := heap } = { s.2 with
      noMatchFn := (lastLoaded ssl s.2.strict s.1.defaultCtx.isSome ctxConfigs).elim s.2.noMatchFn (·.sniNoMatchFn)
      heap := heap } := by
  induction ctxConfigs generalizing s with
  | nil => cases failed
  | cons ctxConfig ctxConfigs ih =>
      have adds := addTo_adds sha256 ssl seeds ctxConfig s.1 s.2
      rw [addAll] at failed
      generalize addTo sha256 ssl seeds ctxConfig s = outcome at adds failed
      cases adds with
      | unloaded what fails =>
          cases failed
          rw [lastLoaded_of_fails (.inl fails), if_neg fails]
          rfl
      | secondDefault what context loads isDefault taken =>
          cases failed
          have fails : Fails ssl s.2.strict s.1.defaultCtx.isSome ctxConfig :=
            .inr (.inl ⟨isDefault, Option.isSome_iff_ne_none.mpr taken⟩)
          rw [lastLoaded_of_fails fails, if_pos loads]
          rfl
      | refused reason what context contexts' loads free refusal =>
          cases failed
          have fails : Fails ssl s.2.strict s.1.defaultCtx.isSome ctxConfig := .inr (.inr (insert_error refusal).1)
          rw [lastLoaded_of_fails fails, if_pos loads]
          rfl
      | added context contexts' loads free done =>
          have adds : ¬ Fails ssl s.2.strict s.1.defaultCtx.isSome ctxConfig := by
            rintro (unloaded | ⟨isDefault, taken⟩ | refused)
            · exact unloaded loads
            · rw [free isDefault] at taken
              cases taken
            · exact refused (insert_ok done).2
          have hasDefault : contexts'.defaultCtx.isSome = (s.1.defaultCtx.isSome || ctxConfig.isDefault) := by
            rw [show contexts'.defaultCtx = _ from (insert_kept done).1, withDefault]
            cases ctxConfig.isDefault <;> simp
          rw [ih failed, lastLoaded_of_adds adds, ← hasDefault]
          dsimp only [setUp]
          cases lastLoaded ssl s.2.strict contexts'.defaultCtx.isSome ctxConfigs with
          | none => rfl
          | some last => rfl

theorem resetSSLContextConfigs_error (failed : resetSSLContextConfigs sha256 ssl seeds ctxConfigs m = .error what m') :
    m' = { m with noMatchFn := (lastLoaded ssl m.strict false ctxConfigs).elim m.noMatchFn (·.sniNoMatchFn) } := by
  unfold resetSSLContextConfigs at failed
  cases added : addAll sha256 ssl (some (seeds.getD m.oldTicketSeeds)) ctxConfigs ({}, m) with
  | error reason s =>
      simp only [added] at failed
      cases failed
      exact addAll_error added m.heap
  | ok _ s =>
      simp only [added] at failed
      cases failed

/-! ## Handshakes that tell two callbacks apart -/

theorem exists_unmatched (dnMap : DnMap) :
    ∃ host, cString host = host ∧ getSSLCtx ⟨host, .bestAvailable⟩ dnMap = none := by
  obtain ⟨n, longer⟩ : ∃ n, ∀ key ∈ dnMap.keys, key.dnString.length < n :=
    ⟨_, fun key member => Nat.lt_succ_of_le (List.le_sum_of_mem (List.mem_map_of_mem (f := (·.dnString.length)) member))⟩
  have isName : cString (List.replicate n 'a') = List.replicate n 'a' := by
    rw [cString, List.takeWhile_eq_self_iff]
    simp
  have noParent : parent (List.replicate n 'a') = [] := by
    rw [parent, List.dropWhile_eq_nil_iff]
    simp
  refine ⟨List.replicate n 'a', isName, ?_⟩
  rw [getSSLCtx_eq, if_pos noParent, Option.or_none]
  by_contra found
  have there := (Std.HashMap.isSome_getElem?_iff_mem).mp (Option.isSome_iff_ne_none.mpr found)
  rw [← Std.HashMap.contains_iff_mem, ← Std.HashMap.contains_keys, List.contains_iff_exists_mem_beq] at there
  obtain ⟨key, member, same⟩ := there
  have length := congrArg List.length (SSLContextKey.beq_iff.mp same).1
  simp only [DNString.lowercase, List.length_map, List.length_replicate] at length
  exact absurd (longer key member) (by omega)

theorem handshakes_unmatched {host : List Char} (isName : cString host = host)
    (unmatched : getSSLCtx ⟨host, .bestAvailable⟩ m.contexts.dnMap = none) :
    handshakes [(⟨some host, none⟩, fun _ _ m => (false, m))] m = [(none, m.noMatchFn.map fun fn => (fn, host))] := by
  cases fn : m.noMatchFn with
  | none => simp [handshakes, serverNameCallback, lookupCtx, certCryptoReq, isName, unmatched, fn]
  | some _ => simp [handshakes, serverNameCallback, lookupCtx, certCryptoReq, isName, unmatched, fn]

/-- A reload that fails leaves the manager and every later handshake as they were exactly if the last configuration that
it loads has the callback that the manager already has. -/
theorem failed_reload_keeps_handshakes (sha256 : Bytes → Digest) (ssl : OpenSSL) (seeds : Option TLSTicketKeySeeds)
    (ctxConfigs : List SSLContextConfig) (m m' : SSLContextManager) (what : String)
    (failed : resetSSLContextConfigs sha256 ssl seeds ctxConfigs m = .error what m') :
    (m' = m ↔ ∀ ctxConfig ∈ lastLoaded ssl m.strict false ctxConfigs, ctxConfig.sniNoMatchFn = m.noMatchFn) ∧
      ((∀ later, handshakes later m' = handshakes later m) ↔
        ∀ ctxConfig ∈ lastLoaded ssl m.strict false ctxConfigs, ctxConfig.sniNoMatchFn = m.noMatchFn) := by
  have left := resetSSLContextConfigs_error failed
  have unchanged (sameFn : ∀ ctxConfig ∈ lastLoaded ssl m.strict false ctxConfigs,
      ctxConfig.sniNoMatchFn = m.noMatchFn) : m' = m := by
    rw [left]
    cases last : lastLoaded ssl m.strict false ctxConfigs with
    | none => rfl
    | some ctxConfig =>
        rw [Option.elim_some, sameFn ctxConfig last]
  have callback (sameFn : m'.noMatchFn = m.noMatchFn) (ctxConfig : SSLContextConfig)
      (last : ctxConfig ∈ lastLoaded ssl m.strict false ctxConfigs) : ctxConfig.sniNoMatchFn = m.noMatchFn := by
    rwa [left, show lastLoaded ssl m.strict false ctxConfigs = some ctxConfig from last] at sameFn
  refine ⟨⟨fun same => callback (congrArg _ same), unchanged⟩, fun same => callback ?_, fun sameFn later => ?_⟩
  · obtain ⟨host, isName, unmatched⟩ := exists_unmatched m.contexts.dnMap
    have unmatched' : getSSLCtx ⟨host, .bestAvailable⟩ m'.contexts.dnMap = none := by rwa [left]
    have told := same [(⟨some host, none⟩, fun _ _ m => (false, m))]
    rw [handshakes_unmatched isName unmatched, handshakes_unmatched isName unmatched'] at told
    simp only [List.cons.injEq, Prod.mk.injEq, true_and, and_true] at told
    exact Option.map_injective (fun _ _ equal => congrArg Prod.fst equal) told
  · rw [unchanged sameFn]

theorem failed_reload_keeps_handshakes_same_callback :
    ∃ what m', resetSSLContextConfigs padded (loading oneName) none [noCertificate] { noMatchFn := some 2 } =
        .error what m' ∧
      ∀ later, handshakes later m' = handshakes later { noMatchFn := some 2 } := by
  have kept := failed_reload_keeps_handshakes padded (loading oneName) none [noCertificate] { noMatchFn := some 2 } _ _ rfl
  exact ⟨_, _, rfl, kept.2.mpr (by decide)⟩

def firstCallbackAdds : NoMatch := fun fn _ m =>
  if fn = 1 then (true, written (addSSLContextConfig padded (loading oneName) none defaultConfig m)) else (false, m)

/-- A reload that fails leaves its callback behind, and the next handshake asks that one. -/
theorem failed_reload_changes_callback :
    ∃ what m', resetSSLContextConfigs padded (loading oneName) none [noCertificate] { noMatchFn := some 1 } =
        .error what m' ∧
      handshakes [(⟨some ['a'], none⟩, firstCallbackAdds)] { noMatchFn := some 1 } = [(some 0, some (1, ['a']))] ∧
      handshakes [(⟨some ['a'], none⟩, firstCallbackAdds)] m' = [(none, some (2, ['a']))] := by
  have unknown (certCrypto : CertCrypto) : getSSLCtx ⟨['a'], certCrypto⟩ ∅ = none := by
    rw [getSSLCtx_eq]
    simp [lookup, parent]
  have added : getSSLCtx ⟨['a'], .bestAvailable⟩ (insertName ['a'] 0 .bestAvailable ∅) = some 0 := by
    rw [getSSLCtx_eq, lookup_insertName_best]
    simp [Spec.SameName]
  have known : (firstCallbackAdds 1 ['a'] { noMatchFn := some 1 }).2.contexts.dnMap =
      insertName ['a'] 0 .bestAvailable ∅ := rfl
  have answers : (firstCallbackAdds 1 ['a'] { noMatchFn := some 1 }).1 = true := rfl
  refine ⟨_, _, rfl, ?_, ?_⟩
  · simp [handshakes, serverNameCallback, lookupCtx, cString, certCryptoReq, unknown, known, answers, added]
  · simp [handshakes, serverNameCallback, lookupCtx, cString, certCryptoReq, unknown, noCertificate, firstCallbackAdds]

end Wangle.Proof.Ssl
