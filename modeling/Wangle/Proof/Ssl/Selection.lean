import Wangle.Proof.Ssl.NameMap

/-!
# The context for a host name

A wildcard name is kept without its star, in the same map as the other names.
-/

namespace Wangle.Proof.Ssl
open Wangle.Ssl Wangle.Keyed Wangle.Spec Wangle.Transition SSLContextManager

def Allowed (dn : List Char) : Prop := (insertedName dn).isOk = true

instance : DecidablePred Allowed := fun _ => inferInstanceAs (Decidable (_ = _))

def parent (host : List Char) : List Char := host.dropWhile (· ≠ '.')

def Matches (name host : List Char) : Prop := SameName name host ∨ Covers name host

instance (name host : List Char) : Decidable (Matches name host) := inferInstanceAs (Decidable (_ ∨ _))

/-- The insertion that the map has under the host, or else under its parent. -/
def answering (host : List Char) (insertions : List Insertion) : Option Insertion :=
  (latest (Under host) insertions).or (if parent host = [] then none else latest (Under (parent host)) insertions)

def accepted (insertions : List Insertion) : List (List Char × Ctx) :=
  (insertions.filter fun insertion => decide (Allowed insertion.dn)).map fun insertion => (insertion.dn, insertion.sslCtx)

variable {dn dnstr host name : List Char} {insertion : Insertion} {insertions : List Insertion} {dnMap : DnMap}

theorem checkedName_ok (checked : checkedName dn = .ok dnstr) : dn = dnstr ∧ dnstr.head? ≠ some '*' := by
  unfold checkedName at checked
  split at checked
  · cases checked
  · split at checked
    · cases checked
    · rename_i noStar
      cases checked
      refine ⟨rfl, fun star => noStar ?_⟩
      cases dn with
      | nil => cases star
      | cons c rest =>
          cases star
          simp [cString]

theorem insertedName_ok (inserted : insertedName dn = .ok dnstr) :
    (dn = '*' :: dnstr ∧ dnstr.head? = some '.') ∨ (dn = dnstr ∧ dnstr.head? ≠ some '*') := by
  unfold insertedName at inserted
  split at inserted
  · rename_i star
    split at inserted
    · rename_i dot
      obtain ⟨rfl, -⟩ := checkedName_ok inserted
      cases dn with
      | nil => cases dot
      | cons c rest =>
          simp only [List.getElem?_cons_zero, List.getElem?_cons_succ, Option.some.injEq] at star dot
          exact .inl ⟨by rw [star.2, List.tail_cons], by rw [List.tail_cons, List.head?_eq_getElem?, dot]⟩
    · cases inserted
  · exact .inr (checkedName_ok inserted)

theorem under_iff : Under name insertion ↔ Allowed insertion.dn ∧
    ((name.head? = some '.' ∧ SameName insertion.dn ('*' :: name)) ∨
      (insertion.dn.head? ≠ some '*' ∧ SameName insertion.dn name)) := by
  cases inserted : insertedName insertion.dn with
  | error what => simp [Under, isNamed, Allowed, inserted, Except.isOk, Except.toBool]
  | ok dnstr =>
      simp only [Under, isNamed, Allowed, inserted, Except.isOk, Except.toBool, decide_eq_true_eq, true_and]
      rcases insertedName_ok inserted with ⟨wild, dot⟩ | ⟨plain, noStar⟩
      · rw [wild, sameName_cons_cons]
        constructor
        · exact fun same => .inl ⟨(same.head_iff (by decide)).mp dot, rfl, same⟩
        · rintro (⟨-, -, same⟩ | ⟨noStar, -⟩)
          · exact same
          · exact absurd rfl noStar
      · rw [plain]
        constructor
        · exact fun same => .inr ⟨noStar, same⟩
        · rintro (⟨-, same⟩ | ⟨-, same⟩)
          · exact absurd ((same.head_iff (by decide)).mpr rfl) noStar
          · exact same

theorem Allowed.wildcard (allowed : Allowed dn) (star : dn.head? = some '*') : ∃ suffix, dn = '*' :: '.' :: suffix := by
  cases inserted : insertedName dn with
  | error what => simp [Allowed, inserted, Except.isOk, Except.toBool] at allowed
  | ok dnstr =>
      rcases insertedName_ok inserted with ⟨rfl, dot⟩ | ⟨rfl, noStar⟩
      · cases dnstr with
        | nil => cases dot
        | cons c suffix =>
            cases dot
            exact ⟨suffix, rfl⟩
      · exact absurd star noStar

theorem parent_head (hasDot : parent host ≠ []) : (parent host).head? = some '.' := by
  obtain ⟨suffix, isParent⟩ := exists_suffix hasDot
  rw [parent, isParent, List.head?_cons]

theorem under_of_same (noStar : host.head? ≠ some '*') (allowed : Allowed insertion.dn)
    (same : SameName insertion.dn host) : Under host insertion :=
  under_iff.mpr ⟨allowed, .inr ⟨fun star => noStar ((same.head_iff (by decide)).mp star), same⟩⟩

theorem under_of_covers (allowed : Allowed insertion.dn) (covers : Covers insertion.dn host) :
    parent host ≠ [] ∧ Under (parent host) insertion := by
  obtain ⟨-, hasDot, same⟩ := covers_iff.mp covers
  exact ⟨hasDot, under_iff.mpr ⟨allowed, .inl ⟨parent_head hasDot, same⟩⟩⟩

theorem same_of_under (under : Under host insertion) (isMatch : Matches insertion.dn host) :
    SameName insertion.dn host := by
  rcases isMatch with same | covers
  · exact same
  · obtain ⟨-, ⟨dot, -⟩ | ⟨-, same⟩⟩ := under_iff.mp under
    · exact absurd dot (covers_iff.mp covers).1
    · exact same

theorem not_under_star (star : host.head? = some '*') : ¬ Under host insertion := by
  rw [under_iff]
  rintro ⟨-, ⟨dot, -⟩ | ⟨noStar, same⟩⟩
  · rw [star] at dot
    cases dot
  · exact noStar ((same.head_iff (by decide)).mpr star)

theorem covers_of_same (star : host.head? = some '*') (allowed : Allowed name) (same : SameName name host) :
    Covers name host := by
  obtain ⟨suffix, rfl⟩ := allowed.wildcard ((same.head_iff (by decide)).mpr star)
  obtain ⟨rest, rfl, isRest⟩ := (sameName_cons (by decide)).mp same.symm
  obtain ⟨rest, rfl, -⟩ := (sameName_cons (by decide)).mp isRest
  rw [covers_iff]
  simpa using same

theorem lookup_eq_latestCtx {strict : Bool} {certCrypto : CertCrypto}
    (oneClass : ∀ insertion ∈ insertions, insertion.certCrypto = certCrypto)
    (done : Transition.run (insertStep strict) ∅ insertions = .ok dnMap) (name : DNString) :
    lookup name certCrypto dnMap = latestCtx (Under name) insertions := by
  have kept (past : List Insertion) (dnMap : DnMap) (insertion : Insertion) (dnMap' : DnMap)
      (found : lookup name certCrypto dnMap = latestCtx (Under name) past)
      (isClass : True ∧ insertion.certCrypto = certCrypto) (taken : insertStep strict dnMap insertion = .ok dnMap') :
      lookup name certCrypto dnMap' = latestCtx (Under name) (past ++ [insertion]) := by
    rw [latestCtx_concat, ← found]
    cases certCrypto with
    | bestAvailable =>
        rw [insertStep_best taken]
        simp [Strong, Weak, isClass.2]
    | sha1Signature =>
        rw [insertStep_sha1 taken]
        simp [Weak, isClass.2]
  have start : lookup name certCrypto ∅ = latestCtx (Under name) [] := by simp [lookup, latestCtx]
  exact run_history (I := fun past dnMap => lookup name certCrypto dnMap = latestCtx (Under name) past)
    kept start (along_and (along_true ∅ insertions) oneClass) done

theorem getSSLCtx_eq (certCrypto : CertCrypto) (dnMap : DnMap) (host : List Char) :
    getSSLCtx ⟨host, certCrypto⟩ dnMap =
      (lookup host certCrypto dnMap).or (if parent host = [] then none else lookup (parent host) certCrypto dnMap) := by
  have suffix : getSSLCtxBySuffix ⟨host, certCrypto⟩ dnMap =
      if parent host = [] then none else lookup (parent host) certCrypto dnMap := by
    unfold getSSLCtxBySuffix
    rw [show (SSLContextKey.mk host certCrypto).dnString.dropWhile (· ≠ '.') = parent host from rfl]
    cases parent host with
    | nil => rfl
    | cons dot rest => rw [if_neg (List.cons_ne_nil dot rest)]
  rw [getSSLCtx, suffix]
  rfl

theorem select_accepted (host : List Char) (insertions : List Insertion) :
    select host (accepted insertions) =
      (latestCtx (fun insertion => Allowed insertion.dn ∧ SameName insertion.dn host) insertions).or
        (latestCtx (fun insertion => Allowed insertion.dn ∧ Covers insertion.dn host) insertions) := by
  simp only [select, accepted, latest_map, latest_filter, latestCtx, Option.map_or, Option.map_map]
  rfl

theorem getSSLCtx_answering {strict : Bool} {certCrypto : CertCrypto}
    (oneClass : ∀ insertion ∈ insertions, insertion.certCrypto = certCrypto)
    (done : Transition.run (insertStep strict) ∅ insertions = .ok dnMap) (host : List Char) :
    getSSLCtx ⟨host, certCrypto⟩ dnMap = (answering host insertions).map (·.sslCtx) := by
  rw [getSSLCtx_eq, lookup_eq_latestCtx oneClass done, lookup_eq_latestCtx oneClass done, answering, Option.map_or]
  split <;> rfl

theorem answering_mem (answers : insertion ∈ answering host insertions) : insertion ∈ insertions := by
  rw [answering, Option.mem_def, Option.or_eq_some_iff] at answers
  rcases answers with found | ⟨-, found⟩
  · exact (latest_some found).1
  · split at found
    · cases found
    · exact (latest_some found).1

theorem select_eq_some {ctx : Ctx} (selected : select host (accepted insertions) = some ctx) :
    ∃ insertion ∈ insertions, Matches insertion.dn host ∧ insertion.sslCtx = ctx := by
  rw [select_accepted, Option.or_eq_some_iff] at selected
  rcases selected with found | ⟨-, found⟩
  all_goals
    obtain ⟨insertion, isLatest, rfl⟩ := Option.map_eq_some_iff.mp found
    obtain ⟨member, -, isMatch⟩ := latest_some isLatest
  · exact ⟨insertion, member, .inl isMatch, rfl⟩
  · exact ⟨insertion, member, .inr isMatch, rfl⟩

theorem select_of_none (unanswered : answering host insertions = none) : select host (accepted insertions) = none := by
  rw [answering, Option.or_eq_none_iff, latest_eq_none] at unanswered
  obtain ⟨notHost, notParent⟩ := unanswered
  have uncovered (insertion) (member : insertion ∈ insertions) :
      ¬ (Allowed insertion.dn ∧ Covers insertion.dn host) := by
    rintro ⟨allowed, covers⟩
    obtain ⟨hasDot, under⟩ := under_of_covers allowed covers
    rw [if_neg hasDot, latest_eq_none] at notParent
    exact notParent insertion member under
  have unnamed (insertion) (member : insertion ∈ insertions) :
      ¬ (Allowed insertion.dn ∧ SameName insertion.dn host) := by
    rintro ⟨allowed, same⟩
    by_cases star : host.head? = some '*'
    · exact uncovered insertion member ⟨allowed, covers_of_same star allowed same⟩
    · exact notHost insertion member (under_of_same star allowed same)
  rw [select_accepted, latestCtx, latestCtx, latest_eq_none.mpr unnamed, latest_eq_none.mpr uncovered]
  rfl

theorem select_of_covers (found : latest (Under (parent host)) insertions = some insertion)
    (allowed : Allowed insertion.dn) (covers : Covers insertion.dn host) :
    latestCtx (fun insertion => Allowed insertion.dn ∧ Covers insertion.dn host) insertions = some insertion.sslCtx := by
  rw [latestCtx, latest_of_imp (fun other _ both => (under_of_covers both.1 both.2).2) found ⟨allowed, covers⟩]
  rfl

theorem select_of_matches (answers : answering host insertions = some insertion)
    (isMatch : Matches insertion.dn host) : select host (accepted insertions) = some insertion.sslCtx := by
  rw [select_accepted]
  rw [answering, Option.or_eq_some_iff] at answers
  rcases answers with found | ⟨notHost, found⟩
  · have under := (latest_some found).2
    have noStar : host.head? ≠ some '*' := fun star => not_under_star star under
    have both := And.intro (under_iff.mp under).1 (same_of_under under isMatch)
    rw [latestCtx, latest_of_imp (fun other _ both => under_of_same noStar both.1 both.2) found both]
    rfl
  · split at found
    · cases found
    have allowed := (under_iff.mp (latest_some found).2).1
    by_cases star : host.head? = some '*'
    · -- the names that are the host are the wildcard names that cover it
      have covers : Covers insertion.dn host := isMatch.elim (covers_of_same star allowed) id
      have selected := select_of_covers found allowed covers
      by_cases named : latestCtx (fun insertion => Allowed insertion.dn ∧ SameName insertion.dn host) insertions = none
      · rw [named, Option.none_or, selected]
      · obtain ⟨ctx, isCtx⟩ := Option.ne_none_iff_exists'.mp named
        obtain ⟨other, isLatest, rfl⟩ := Option.map_eq_some_iff.mp isCtx
        obtain ⟨-, allowed', same⟩ := latest_some isLatest
        have both : Allowed insertion.dn ∧ SameName insertion.dn host := by
          refine ⟨allowed, ?_⟩
          have left := (covers_iff.mp covers).2.2
          exact left.trans ((covers_iff.mp (covers_of_same star allowed' same)).2.2.symm.trans same)
        rw [latestCtx, latest_of_imp (fun other _ both =>
          (under_of_covers both.1 (covers_of_same star both.1 both.2)).2) found both]
        rfl
    · have unnamed : latestCtx (fun insertion => Allowed insertion.dn ∧ SameName insertion.dn host) insertions = none := by
        rw [latestCtx, latest_eq_none.mpr fun other member both =>
          latest_eq_none.mp notHost other member (under_of_same star both.1 both.2)]
        rfl
      have covers : Covers insertion.dn host := by
        refine isMatch.resolve_left fun same => ?_
        exact latest_eq_none.mp notHost insertion (latest_some found).1 (under_of_same star allowed same)
      rw [unnamed, Option.none_or, select_of_covers found allowed covers]

/-- The context for a host is the latest one with its name, or else the latest one with a wildcard name that covers
it, if the name under which the map answers is one for the host, and, unless a context has several names, only then. -/
theorem sni_selects_matching_name (strict : Bool) (certCrypto : CertCrypto) (insertions : List Insertion)
    (oneClass : ∀ insertion ∈ insertions, insertion.certCrypto = certCrypto) (dnMap : DnMap)
    (done : Transition.run (insertStep strict) ∅ insertions = .ok dnMap) (host : List Char) :
    ((∀ insertion ∈ answering host insertions, Matches insertion.dn host) →
      getSSLCtx ⟨host, certCrypto⟩ dnMap = select host (accepted insertions)) ∧
    ((∀ insertion ∈ insertions, ∀ other ∈ insertions, insertion.sslCtx = other.sslCtx → insertion.dn = other.dn) →
      (getSSLCtx ⟨host, certCrypto⟩ dnMap = select host (accepted insertions) ↔
        ∀ insertion ∈ answering host insertions, Matches insertion.dn host)) := by
  have selects (matching : ∀ insertion ∈ answering host insertions, Matches insertion.dn host) :
      getSSLCtx ⟨host, certCrypto⟩ dnMap = select host (accepted insertions) := by
    rw [getSSLCtx_answering oneClass done]
    cases answers : answering host insertions with
    | none => rw [select_of_none answers, Option.map_none]
    | some insertion => rw [select_of_matches answers (matching insertion answers), Option.map_some]
  refine ⟨selects, fun oneName => ⟨fun equal insertion answers => ?_, selects⟩⟩
  rw [getSSLCtx_answering oneClass done, show answering host insertions = some insertion from answers] at equal
  obtain ⟨other, member, isMatch, same⟩ := select_eq_some equal.symm
  rwa [oneName insertion (answering_mem answers) other member same.symm]

def wildcardAndHost : List Insertion :=
  [⟨"*.b.c".toList, 1, .sha1Signature⟩, ⟨"a.b.c".toList, 2, .sha1Signature⟩, ⟨"*a.b".toList, 3, .sha1Signature⟩]

theorem sni_selects_matching_name_wildcard :
    ∃ dnMap, Transition.run (insertStep false) ∅ wildcardAndHost = .ok dnMap ∧
      getSSLCtx ⟨"X.B.C".toList, .sha1Signature⟩ dnMap = some 1 ∧
      getSSLCtx ⟨"A.b.c".toList, .sha1Signature⟩ dnMap = some 2 := by
  have oneClass : ∀ insertion ∈ wildcardAndHost, insertion.certCrypto = .sha1Signature := by decide
  refine ⟨_, rfl, ?_, ?_⟩
  · rw [(sni_selects_matching_name false .sha1Signature wildcardAndHost oneClass _ rfl _).1 (by decide)]
    decide
  · rw [(sni_selects_matching_name false .sha1Signature wildcardAndHost oneClass _ rfl _).1 (by decide)]
    decide

def dotName : List Insertion := [⟨".b".toList, 1, .bestAvailable⟩]

def wildcardName : List Insertion := [⟨"*.b".toList, 1, .bestAvailable⟩]

/-- The name `.b` is taken for the host `a.b`, and the wildcard name `*.b` for the host `.b`. -/
theorem names_cross_over :
    (∃ dnMap, Transition.run (insertStep true) ∅ dotName = .ok dnMap ∧
      getSSLCtx ⟨"a.b".toList, .bestAvailable⟩ dnMap = some 1 ∧ select "a.b".toList (accepted dotName) = none) ∧
    ∃ dnMap, Transition.run (insertStep true) ∅ wildcardName = .ok dnMap ∧
      getSSLCtx ⟨".b".toList, .bestAvailable⟩ dnMap = some 1 ∧ select ".b".toList (accepted wildcardName) = none := by
  have dotClass : ∀ insertion ∈ dotName, insertion.certCrypto = .bestAvailable := by decide
  have wildcardClass : ∀ insertion ∈ wildcardName, insertion.certCrypto = .bestAvailable := by decide
  refine ⟨⟨_, rfl, ?_, by decide⟩, _, rfl, ?_, by decide⟩
  · rw [getSSLCtx_eq, lookup_eq_latestCtx dotClass rfl, lookup_eq_latestCtx dotClass rfl]
    decide
  · rw [getSSLCtx_eq, lookup_eq_latestCtx wildcardClass rfl, lookup_eq_latestCtx wildcardClass rfl]
    decide

end Wangle.Proof.Ssl
