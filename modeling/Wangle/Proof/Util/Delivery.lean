import Wangle.Proof.Util.Registry

/-!
# What the callbacks of a path are given

The callbacks of a path share one read cache, so each is given the files of those called before it.
-/

namespace Wangle.Proof.Util
open Wangle.Util Wangle.Keyed FilePoller MultiFilePoller
open Wangle.Transition hiding run

variable {s s' : State} {m : MultiFilePoller} {files : Files} {cbId : CallbackId} {path : Path}

def content (files : Files) (path : Path) : Option Contents := (openFile files path).bind File.data

def Cached (files : Files) (seen : List Path) (contents : CallbackArg) : Prop :=
  ∀ file data, contents.lookup file = some data ↔ file ∈ seen ∧ content files file = some data

theorem readPath_of_none {contents : CallbackArg} (unreadable : content files path = none) :
    MultiFilePoller.readPath files path contents = contents := by
  rw [content] at unreadable
  rw [MultiFilePoller.readPath, unreadable]

theorem readPath_of_some {contents : CallbackArg} {data : Contents} (readable : content files path = some data) :
    MultiFilePoller.readPath files path contents = emplace path data contents := by
  rw [content] at readable
  rw [MultiFilePoller.readPath, readable]

theorem Cached.readPath {seen : List Path} {contents : CallbackArg} (cached : Cached files seen contents) (path : Path) :
    Cached files (seen ++ [path]) (readPath files path contents) := by
  intro file data
  have known := cached file
  rw [List.mem_append, List.mem_singleton]
  cases isContent : content files path with
  | none =>
      rw [readPath_of_none isContent, known data]
      refine and_congr_left fun readable => ⟨.inl, fun either => either.elim id fun same => ?_⟩
      rw [same, isContent] at readable
      cases readable
  | some read =>
      rw [readPath_of_some isContent]
      by_cases same : file = path
      · subst same
        rw [lookup_emplace_self, isContent]
        cases found : contents.lookup file with
        | none => simp
        | some old =>
            have isOld := ((known old).mp found).2
            rw [isContent] at isOld
            cases isOld
            simp
      · rw [lookup_emplace_of_ne same, known data]
        simp [same]

theorem Cached.readPaths {seen : List Path} {contents : CallbackArg} (cached : Cached files seen contents)
    (paths : List Path) :
    Cached files (seen ++ paths) (paths.foldl (fun contents path => MultiFilePoller.readPath files path contents) contents) := by
  induction paths generalizing seen contents with
  | nil => rwa [List.append_nil]
  | cons path paths ih =>
      rw [← List.singleton_append, ← List.append_assoc]
      exact ih (cached.readPath path)

def OnlyOwn (files : Files) (m : MultiFilePoller) (call : CallbackId × CallbackArg) : Prop :=
  Cached files (registered m call.1) call.2

def Covers (files : Files) (m : MultiFilePoller) (seen : List Path) (cbId : CallbackId) : Prop :=
  ∀ file ∈ seen, (content files file).isSome → file ∈ registered m cbId

instance (files : Files) (m : MultiFilePoller) (seen : List Path) : DecidablePred (Covers files m seen) :=
  fun cbId => inferInstanceAs (Decidable (∀ file ∈ seen, (content files file).isSome → file ∈ registered m cbId))

theorem onlyOwn_iff {seen : List Path} {contents : CallbackArg}
    (cached : Cached files (seen ++ registered m cbId) contents) :
    OnlyOwn files m (cbId, contents) ↔ Covers files m seen cbId := by
  constructor
  · intro only file member readable
    obtain ⟨data, isContent⟩ := Option.isSome_iff_exists.mp readable
    exact ((only file data).mp ((cached file data).mpr ⟨List.mem_append_left _ member, isContent⟩)).1
  · intro covers file data
    refine (cached file data).trans (and_congr_left fun isContent => ?_)
    rw [List.mem_append]
    refine ⟨fun either => either.elim (fun member => ?_) id, .inr⟩
    exact covers file member (Option.isSome_iff_exists.mpr ⟨data, isContent⟩)

theorem callbacks_onlyOwn_iff {ids : List CallbackId} {seen : List Path} {contents : CallbackArg}
    {calls : List (CallbackId × CallbackArg)} (cached : Cached files seen contents)
    (called : callbacks files m.idsToCallbacks ids contents = .ok calls) :
    (∀ call ∈ calls, OnlyOwn files m call) ↔
      (∀ cbId ∈ ids, Covers files m seen cbId) ∧
        ids.Pairwise fun earlier later => Covers files m (registered m earlier) later := by
  -- `seen` are the files that were read for the ids before these
  induction ids generalizing seen contents calls with
  | nil =>
      cases called
      simp
  | cons cbId ids ih =>
      rw [callbacks] at called
      cases found : m.idsToCallbacks.lookup cbId with
      | none =>
          rw [found] at called
          cases called
      | some detail =>
          have own : registered m cbId = detail.files := by rw [registered, found]; rfl
          have read := cached.readPaths detail.files
          rw [← own] at read
          rw [found] at called
          dsimp only at called
          rw [← own] at called
          cases rest : callbacks files m.idsToCallbacks ids
              ((registered m cbId).foldl (fun contents path => MultiFilePoller.readPath files path contents) contents) with
          | error e =>
              rw [rest] at called
              cases called
          | ok later =>
              rw [rest] at called
              cases called
              rw [List.forall_mem_cons, List.forall_mem_cons, List.pairwise_cons, onlyOwn_iff read, ih read rest]
              have both (other : CallbackId) : Covers files m (seen ++ registered m cbId) other ↔
                  Covers files m seen other ∧ Covers files m (registered m cbId) other := by
                simp only [Covers, List.forall_mem_append]
              simp only [both, forall_and]
              tauto

/-! ## The states that `registerFiles` builds -/

def IsCancel : Op → Prop
  | .cancelCallback .. | .cancelPath | .cancelReturns => True
  | _ => False

instance : DecidablePred IsCancel
  | .cancelCallback .. | .cancelPath | .cancelReturns => isTrue trivial
  | .write .. | .remove _ | .registerFiles .. | .registerPath | .registerReturns | .checkFiles _ | .checkFile
  | .onFileUpdated | .checkReturns => isFalse id

structure Listed (m : MultiFilePoller) (call : Option Call) : Prop where
  counts : Counts m call
  unused : ∀ cbId cbPaths paths inPollerThread, call = some (.registerFiles cbId cbPaths paths inPollerThread) →
    m.idsToCallbacks.lookup cbId = none

theorem Listed.setModData {call : Option Call} (listed : Listed m call) (path : Path) (modData : FileModificationData) :
    Listed { m with poller := m.poller.setModData path modData } call := by
  refine ⟨?_, listed.unused⟩
  have counts := listed.counts
  cases call with
  | none => exact counts
  | some call => cases call <;> exact counts

theorem Listed.step {op : Op} (listed : Listed s.multi s.call) (keeps : ¬ IsCancel op)
    (taken : MultiFilePoller.step s op = .ok s') : Listed s'.multi s'.call := by
  cases moves_of_step taken with
  | registerFiles paths inPollerThread cbId free unused =>
      refine ⟨Counts.registerFiles (free ▸ listed.counts) unused, ?_⟩
      intro cbId' cbPaths paths' inPollerThread' same
      cases same
      exact unused
  | registerPath cbId cbPaths path paths inPollerThread isCall unlocked =>
      refine ⟨Counts.registerPath (isCall ▸ listed.counts) s.files, ?_⟩
      intro cbId' cbPaths' paths' inPollerThread' same
      cases same
      exact listed.unused _ _ _ _ isCall
  | registerReturns cbId cbPaths inPollerThread isCall =>
      refine ⟨Counts.registerReturns (isCall ▸ listed.counts) (listed.unused _ _ _ _ isCall), ?_⟩
      intro cbId' cbPaths' paths' inPollerThread' same
      cases same
  | untouched path => exact listed.setModData path _
  | onFileUpdated paths file => exact listed.setModData file.fileName file.modData
  | cancelThrows | cancelCallback | cancelPath | cancelLast | cancelReturns => exact absurd trivial keeps
  | _ => exact listed

theorem run_listed {ops : List Op} (keeps : ∀ op ∈ ops, ¬ IsCancel op) (done : run { files } ops = .ok s) :
    Listed s.multi s.call := by
  have start : Listed {} none := ⟨fun _ _ => rfl, fun _ _ _ _ none => by cases none⟩
  exact run_invariant (I := fun s => Listed s.multi s.call) (fun s op s' listed permitted taken => listed.step permitted.2 taken)
    start (along_and (along_true _ ops) keeps) done

theorem Listed.onFileUpdated_ok (listed : Listed m none) (files : Files) (path : Path) :
    ∃ calls, m.onFileUpdated files path = .ok calls ∧ calls.map Prod.fst = m.callbackIds path := by
  refine callbacks_ok files (fun cbId member => ?_) ∅
  rw [← List.count_pos_iff, listed.counts, List.count_pos_iff] at member
  obtain ⟨detail, found, -⟩ := mem_registered.mp member
  rw [found]
  exact Option.some_ne_none detail

/-! ## Delivery -/

structure DeliversOwn (s : State) (path : Path) (calls : List (CallbackId × CallbackArg)) : Prop where
  once : ∀ cbId, path ∈ registered s.multi cbId → (calls.map Prod.fst).count cbId = 1
  own : ∀ call ∈ calls, OnlyOwn s.files s.multi call

/-- No callback has the path twice, and each has all readable files of those that are called before it. -/
structure Nested (s : State) (path : Path) : Prop where
  once : (s.multi.callbackIds path).Nodup
  covers : (s.multi.callbackIds path).Pairwise fun earlier later =>
    Covers s.files s.multi (registered s.multi earlier) later

theorem onFileUpdated_delivers_iff (files : Files) (ops : List Op) (s : State) (registers : ∀ op ∈ ops, ¬ IsCancel op)
    (done : run { files } ops = .ok s) (atRest : s.call = none) (path : Path) :
    ∃ calls, s.multi.onFileUpdated s.files path = .ok calls ∧ (DeliversOwn s path calls ↔ Nested s path) := by
  have listed := run_listed registers done
  rw [atRest] at listed
  obtain ⟨calls, called, isIds⟩ := listed.onFileUpdated_ok s.files path
  have empty : Cached s.files [] ∅ := fun file data => by simp
  have own := callbacks_onlyOwn_iff empty called
  have registered_iff (cbId : CallbackId) : path ∈ registered s.multi cbId ↔ cbId ∈ s.multi.callbackIds path := by
    rw [← List.count_pos_iff, ← List.count_pos_iff, listed.counts]
    rfl
  refine ⟨calls, called, ?_⟩
  constructor
  · intro delivers
    refine ⟨List.nodup_iff_count_eq_one.mpr fun cbId member => ?_, (own.mp delivers.own).2⟩
    rw [← isIds]
    exact delivers.once cbId ((registered_iff cbId).mpr member)
  · intro nested
    refine ⟨fun cbId member => ?_, own.mpr ⟨fun cbId _ file none => ?_, nested.covers⟩⟩
    · rw [isIds]
      exact List.nodup_iff_count_eq_one.mp nested.once cbId ((registered_iff cbId).mp member)
    · cases none

section examples

def twoFiles : Files := fun path =>
  if path = ['a'] then some ⟨1, some [65]⟩ else if path = ['b'] then some ⟨1, some [66]⟩ else none

theorem onFileUpdated_delivers_nested : ∃ s calls,
    run { files := twoFiles } (registering [['a']] ++ registering [['b'], ['a']]) = .ok s ∧
      s.multi.onFileUpdated s.files ['a'] = .ok calls ∧ DeliversOwn s ['a'] calls := by
  obtain ⟨calls, called, delivers⟩ := onFileUpdated_delivers_iff twoFiles
    (registering [['a']] ++ registering [['b'], ['a']]) _ (by decide) rfl rfl ['a']
  exact ⟨_, calls, rfl, called, delivers.mpr ⟨by decide, by decide⟩⟩

/-- The second callback of `a` is given the file `b` of the first, and a callback with the path twice is called twice. -/
theorem onFileUpdated_not_own :
    (∃ s calls, run { files := twoFiles } (registering [['b'], ['a']] ++ registering [['a']]) = .ok s ∧
      s.multi.onFileUpdated s.files ['a'] = .ok calls ∧ ¬ DeliversOwn s ['a'] calls) ∧
    ∃ s calls, run { files := twoFiles } (registering [['a'], ['a']]) = .ok s ∧
      s.multi.onFileUpdated s.files ['a'] = .ok calls ∧ ¬ DeliversOwn s ['a'] calls := by
  constructor
  · refine ⟨_, _, rfl, rfl, fun delivers => ?_⟩
    have own := delivers.own _ (List.mem_cons_of_mem _ List.mem_cons_self) ['b'] [66]
    revert own
    decide
  · refine ⟨_, _, rfl, rfl, fun delivers => ?_⟩
    have once := delivers.once 1
    revert once
    decide

end examples

end Wangle.Proof.Util
