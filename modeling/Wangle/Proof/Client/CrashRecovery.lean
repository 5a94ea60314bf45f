import Wangle.Client.FilePersistentCache
import Wangle.Proof.Client.Sync
import Mathlib.Data.List.Perm.Basic

/-!
# What a cache finds in the file after the process has ended

The sync thread writes a snapshot over the one before. A file that is incomplete does not parse, so that the next
process finds the contents of the cache at one moment, or nothing.
-/

namespace Wangle.Proof.Client
open Wangle.Client Wangle.Recency FilePersistentCache
open Wangle.Transition hiding run

variable {K V : Type} {setup : FileSetup K V} {s s' : FilePersistentCache K V} {file : Option (List UInt8)}

def contents (s : FilePersistentCache K V) : List (K × V) := s.cache.cache.cache.entries

def reread (setup : FileSetup K V) (l : List (K × V)) : List (K × V) := l.map (Prod.map id setup.convert)

theorem reread_reread (l : List (K × V)) : reread setup (reread setup l) = reread setup l := by
  simp [reread, Function.comp_def, Prod.map, setup.convert_convert]

theorem reread_map_some (l : List (K × V)) :
    (l.map some).map (Option.map (Prod.map id setup.convert)) = (reread setup l).map some := by
  simp [reread]

theorem load_front {dynObj : Dynamic K V} {text front : List UInt8} (serialized : setup.serialize dynObj = some text)
    (isFront : front <+: text) : load setup (some front) = none ∨
      load setup (some front) = some (dynObj.map (Option.map (Prod.map id setup.convert))) := by
  by_cases whole : front = text
  · rw [whole]
    exact .inr (setup.parseJson_serialize serialized)
  · exact .inl (setup.parseJson_front serialized isFront whole)

theorem persist_file (dynObj : Dynamic K V) (calls : PersistCalls) (file : Option (List UInt8)) :
    (persist setup dynObj calls file).1 = false ∧ (persist setup dynObj calls file).2 = file ∨
      ∃ text front, setup.serialize dynObj = some text ∧ front <+: text ∧
        (persist setup dynObj calls file).2 = some front ∧
        ((persist setup dynObj calls file).1 = true → front = text) := by
  unfold persist
  split
  · rename_i text nWritten synced closed serialized
    refine .inr ⟨text, _, serialized, List.take_prefix .., rfl, fun success => List.take_of_length_le ?_⟩
    simp only [Bool.and_eq_true, decide_eq_true_eq] at success
    exact success.1.1
  · exact .inl ⟨rfl, rfl⟩

section cache
variable [DecidableEq K] {c c' : LRUPersistentCache K V} {op : LRUPersistentCache.Op K V}

omit [DecidableEq K] in
theorem syncing_or_inMemory (inProcess : InProcess op) :
    InMemory op ∨ Syncing op ∧ ∀ outcome, op ≠ .persist outcome := by
  cases op with
  | setPersistence | persist | clearPersistence => exact inProcess.elim
  | get | put | remove | clear | clearPick => exact .inl trivial
  | pick | test | convert | record | count | giveUp => exact .inr ⟨trivial, by simp⟩

omit [DecidableEq K] in
theorem setPersistedVersion_stored (p version : Nat) (c : LRUPersistentCache K V) (q : Nat) :
    ((c.setPersistedVersion p version).persistences q).stored = (c.persistences q).stored := by
  by_cases same : q = p <;> simp [LRUPersistentCache.setPersistedVersion, LRUPersistentCache.set, same]

structure Keeps (op : LRUPersistentCache.Op K V) (c c' : LRUPersistentCache K V) : Prop where
  maxSize : c'.cache.cache.maxSize = c.cache.cache.maxSize
  entries : ∀ entry ∈ c'.cache.cache.entries, entry ∈ c.cache.cache.entries ∨ op = .put entry.1 entry.2
  converted : ∀ {p kvPairs version}, c'.syncer = .converted p kvPairs version →
    c.syncer = .converted p kvPairs version ∨ kvPairs = c.cache.cache.entries.map some
  persistence : c'.persistence = c.persistence
  stored : ∀ p, (c'.persistences p).stored = (c.persistences p).stored
  target : ∀ p, target c'.syncer = some p → target c.syncer = some p ∨ c.persistence = some p

theorem inMemory_keeps (inMemory : InMemory op) (taken : c.step op = .ok c') : Keeps op c c' := by
  have keeps {cache : LRUInMemoryCache K V} {clearing : Nat} {clears : List Nat}
      (maxSize : cache.cache.maxSize = c.cache.cache.maxSize)
      (entries : ∀ entry ∈ cache.cache.entries, entry ∈ c.cache.cache.entries ∨ op = .put entry.1 entry.2) :
      Keeps op c { c with cache := cache, clearing := clearing, clears := clears } :=
    ⟨maxSize, entries, .inl, rfl, fun p => rfl, fun p => .inl⟩
  cases op with
  | get k =>
      cases taken
      refine keeps ?_ fun entry member => .inl ((CacheMap.find_perm k c.cache.cache).mem_iff.mp member)
      simp only [LRUInMemoryCache.get, CacheMap.find]
      split <;> rfl
  | put k v =>
      cases taken
      refine keeps rfl fun entry member => ?_
      rcases List.mem_cons.mp ((within_sublist ..).mem member) with rfl | other
      · exact .inr rfl
      · exact .inl (List.mem_of_mem_filter other)
  | remove k =>
      cases taken
      unfold LRUInMemoryCache.remove
      split
      · exact keeps rfl fun entry member => .inl (List.mem_of_mem_filter member)
      · exact keeps rfl fun entry => .inl
  | clear clearPersistence =>
      cases taken
      unfold LRUInMemoryCache.clear
      split
      · exact keeps rfl fun entry => .inl
      · exact keeps rfl fun entry member => by cases member
  | clearPick =>
      simp only [LRUPersistentCache.step] at taken
      split at taken <;> cases taken
      exact keeps rfl fun entry => .inl
  | _ => exact inMemory.elim

theorem inProcess_keeps (inProcess : InProcess op) (taken : c.step op = .ok c') : Keeps op c c' := by
  obtain inMemory | ⟨syncing, notPersist⟩ := syncing_or_inMemory inProcess
  · exact inMemory_keeps inMemory taken
  · cases syncing_step syncing taken with
    | stored => exact absurd rfl (notPersist _)
    | failed => exact absurd rfl (notPersist _)
    | pick => exact ⟨rfl, fun entry => .inl, by simp, rfl, fun p => rfl, fun p => .inr⟩
    | converted p place =>
        refine ⟨rfl, fun entry => .inl, fun there => .inr ?_, rfl, fun q => rfl, by simp [place, Client.target]⟩
        cases there
        rfl
    | idle =>
        exact ⟨rfl, fun entry => .inl, by simp [LRUPersistentCache.synced], rfl, fun p => rfl,
          by simp [LRUPersistentCache.synced, Client.target]⟩
    | changed p place | unconverted p place | retry p attempt place | exhausted p attempt place =>
        exact ⟨rfl, fun entry => .inl, by simp, rfl, fun q => rfl, by simp [place, Client.target]⟩
    | record p version place | giveUp p version place =>
        exact ⟨rfl, fun entry => .inl, by simp [LRUPersistentCache.synced], rfl,
          setPersistedVersion_stored p version c, by simp [LRUPersistentCache.synced, Client.target]⟩

structure Returns (result : Bool) (p : Nat) (kvPairs : Dynamic K V) (loaded : Option (Dynamic K V))
    (c c' : LRUPersistentCache K V) : Prop where
  cache : c'.cache = c.cache
  persistence : c'.persistence = c.persistence
  stored : (c'.persistences p).stored = if result then some kvPairs else loaded
  target : target c'.syncer = some p
  returned : ∀ {q found version}, c'.syncer ≠ .converted q found version

theorem persist_returns {result : Bool} {p : Nat} {kvPairs : Dynamic K V} {version : Nat}
    {loaded : Option (Dynamic K V)} (place : c.syncer = .converted p kvPairs version)
    (taken : c.step (.persist (if result then .success else .failure loaded)) = .ok c') :
    Returns result p kvPairs loaded c c' := by
  simp only [LRUPersistentCache.step, place] at taken
  cases result <;> cases taken
  · exact ⟨rfl, rfl, by simp [LRUPersistentCache.set], rfl, by simp⟩
  · exact ⟨rfl, rfl, by simp [LRUPersistentCache.set], rfl, by simp⟩

theorem clearPersistence_keeps {p : Nat} (taken : c.step (.clearPersistence p) = .ok c') :
    c'.cache = c.cache ∧ c'.syncer = c.syncer := by
  simp only [LRUPersistentCache.step] at taken
  split at taken <;> cases taken
  exact ⟨rfl, rfl⟩

theorem loadLoop_maxSize (data : Dynamic K V) (cache : CacheMap K V) (updated : Bool) :
    (LRUInMemoryCache.loadLoop data cache updated).1.maxSize = cache.maxSize := by
  induction data generalizing cache updated with
  | nil => rfl
  | cons entry rest ih =>
      cases entry with
      | none => rfl
      | some kv => exact ih (cache.set kv.1 kv.2) true

variable (setup) in
theorem new_cache_eq (file : Option (List UInt8)) :
    ∃ cache persistence, (FilePersistentCache.new setup file).cache = started setup.nSyncRetries cache persistence ∧
      cache.cache.maxSize = setup.cacheCapacity ∧ persistence.stored = load setup file ∧
      cache.cache.entries =
        ((LRUInMemoryCache.new setup.cacheCapacity).loadData ((load setup file).getD [])).cache.entries := by
  cases loaded : load setup file with
  | none =>
      refine ⟨.new setup.cacheCapacity, {}, ?_, rfl, rfl, rfl⟩
      rw [FilePersistentCache.new, loaded, new_unloaded]
  | some data =>
      refine ⟨(LRUInMemoryCache.new setup.cacheCapacity).loadData data, { stored := some data, persistedVersion :=
        ((LRUInMemoryCache.new setup.cacheCapacity).loadData data).version }, ?_, loadLoop_maxSize .., rfl, rfl⟩
      rw [FilePersistentCache.new, loaded, new_loaded]

theorem contents_new {l : List (K × V)} (loaded : (load setup file).getD [] = l.map some)
    (distinct : (l.map Prod.fst).Nodup) (room : setup.cacheCapacity ≠ 0 → l.length ≤ setup.cacheCapacity) :
    contents (.new setup file) = l.reverse := by
  obtain ⟨cache, persistence, same, -, -, entries⟩ := new_cache_eq setup file
  rw [contents, same, ← loadData_entries setup.cacheCapacity distinct room, ← loaded]
  exact entries

end cache

section steps
variable [DecidableEq K]

inductive FileStep (setup : FileSetup K V) (s : FilePersistentCache K V) :
    FilePersistentCache.Op K V → FilePersistentCache K V → Prop
  | cache (op : LRUPersistentCache.Op K V) (inProcess : InProcess op) {cache : LRUPersistentCache K V}
      (taken : s.cache.step op = .ok cache) : FileStep setup s (.cache op) { s with cache := cache }
  | persisted (calls : PersistCalls) {p : Nat} {kvPairs : Dynamic K V} {version : Nat}
      (place : s.cache.syncer = .converted p kvPairs version) {cache : LRUPersistentCache K V}
      (taken : s.cache.step (.persist (if (persist setup kvPairs calls s.file).1 then .success
        else .failure (load setup (persist setup kvPairs calls s.file).2))) = .ok cache) :
      FileStep setup s (.persist calls) { cache, file := (persist setup kvPairs calls s.file).2 }
  | unlinked {p : Nat} {cache : LRUPersistentCache K V} (taken : s.cache.step (.clearPersistence p) = .ok cache) :
      FileStep setup s (.unlink true) { cache, file := none }
  | left (clears : List Nat) : FileStep setup s (.unlink false) { s with cache := { s.cache with clears := clears } }
  | restarted : FileStep setup s .restart (.new setup s.file)

theorem fileStep_of_step {op : FilePersistentCache.Op K V} (taken : step setup s op = .ok s') :
    FileStep setup s op s' := by
  cases op with
  | cache op =>
      simp only [step] at taken
      split at taken
      · rename_i inProcess
        obtain ⟨cache, stepped, rfl⟩ := map_eq_ok.mp taken
        exact .cache op inProcess stepped
      · cases taken
  | persist calls =>
      simp only [step] at taken
      split at taken
      · rename_i place
        obtain ⟨cache, stepped, rfl⟩ := map_eq_ok.mp taken
        exact .persisted calls place stepped
      · cases taken
  | unlink success =>
      simp only [step] at taken
      split at taken
      · cases taken
      · cases success
        · cases taken
          exact .left _
        · obtain ⟨cache, stepped, rfl⟩ := map_eq_ok.mp taken
          exact .unlinked stepped
  | restart =>
      cases taken
      exact .restarted

end steps

section moments
variable [DecidableEq K] {past : List (FilePersistentCache.Op K V)}

def Put (setup : FileSetup K V) (past : List (FilePersistentCache.Op K V)) (entry : K × V) : Prop :=
  ∃ v, .cache (.put entry.1 v) ∈ past ∧ (entry.2 = v ∨ entry.2 = setup.convert v)

structure Moment (setup : FileSetup K V) (past : List (FilePersistentCache.Op K V)) (t : FilePersistentCache K V) :
    Prop where
  passed : Passed (step setup) (.new setup none) past t
  limit : t.cache.cache.cache.maxSize = setup.cacheCapacity
  put : ∀ entry ∈ contents t, Put setup past entry

structure Recorded (setup : FileSetup K V) (past : List (FilePersistentCache.Op K V)) (s : FilePersistentCache K V) :
    Prop where
  moment : Moment setup past s
  converted : ∀ {p kvPairs version}, s.cache.syncer = .converted p kvPairs version →
    ∃ t, Moment setup past t ∧ kvPairs = (contents t).map some
  file : ∀ {front}, s.file = some front → ∃ t text, Moment setup past t ∧
    setup.serialize ((contents t).map some) = some text ∧ front <+: text

theorem Moment.later {t : FilePersistentCache K V} (moment : Moment setup past t) (op : FilePersistentCache.Op K V) :
    Moment setup (past ++ [op]) t where
  passed := moment.passed.later op
  limit := moment.limit
  put entry member := (moment.put entry member).imp fun _ put => ⟨List.mem_append_left _ put.1, put.2⟩

theorem Moment.of_cache {t t' : FilePersistentCache K V} (moment : Moment setup past t)
    (passed : Passed (step setup) (.new setup none) past t') (same : t'.cache.cache = t.cache.cache) :
    Moment setup past t' := by
  refine ⟨passed, ?_, ?_⟩
  · rw [same]
    exact moment.limit
  · rw [contents, same]
    exact moment.put

theorem Recorded.loaded (recorded : Recorded setup past s) :
    load setup s.file = none ∨
      ∃ t, Moment setup past t ∧ load setup s.file = some ((reread setup (contents t)).map some) := by
  cases found : s.file with
  | none => exact .inl rfl
  | some front =>
      obtain ⟨t, text, moment, serialized, isFront⟩ := recorded.file found
      refine (load_front serialized isFront).imp_right fun loaded => ⟨t, moment, ?_⟩
      rw [loaded, reread_map_some]

theorem Moment.loadable {t : FilePersistentCache K V} (moment : Moment setup past t) :
    ((reread setup (contents t)).map Prod.fst).Nodup ∧
      (setup.cacheCapacity ≠ 0 → (reread setup (contents t)).length ≤ setup.cacheCapacity) := by
  have bounded := t.cache.cache.cache.bounded
  rw [moment.limit] at bounded
  simpa [reread] using ⟨t.cache.cache.cache.distinct, bounded⟩

theorem Recorded.restarted (recorded : Recorded setup past s) :
    contents (.new setup s.file) = [] ∨
      ∃ t, Moment setup past t ∧ (contents (.new setup s.file)).Perm (reread setup (contents t)) := by
  obtain unloaded | ⟨t, moment, loaded⟩ := recorded.loaded
  · exact .inl (contents_new (l := []) (by rw [unloaded]; rfl) List.nodup_nil (by simp))
  · refine .inr ⟨t, moment, ?_⟩
    rw [contents_new (by rw [loaded]; rfl) moment.loadable.1 moment.loadable.2]
    exact List.reverse_perm _

theorem recorded_new (past : List (FilePersistentCache.Op K V))
    (passed : Passed (step setup) (.new setup none) past (.new setup file))
    (put : ∀ entry ∈ contents (.new setup file), Put setup past entry)
    (there : ∀ {front}, file = some front → ∃ t text, Moment setup past t ∧
      setup.serialize ((contents t).map some) = some text ∧ front <+: text) :
    Recorded setup past (.new setup file) := by
  obtain ⟨cache, persistence, same, limit, -⟩ := new_cache_eq setup file
  refine ⟨⟨passed, by rw [same]; exact limit, put⟩, fun place => ?_, there⟩
  rw [same] at place
  cases place

theorem step_recorded (recorded : Recorded setup past s) {op : FilePersistentCache.Op K V}
    (done : run setup past = .ok s) (taken : step setup s op = .ok s') : Recorded setup (past ++ [op]) s' := by
  have passed := passed_of_run (run_concat done taken)
  have moment := recorded.moment.later op
  have converted {p : Nat} {kvPairs : Dynamic K V} {version : Nat}
      (place : s.cache.syncer = .converted p kvPairs version) :
      ∃ t, Moment setup (past ++ [op]) t ∧ kvPairs = (contents t).map some :=
    (recorded.converted place).imp fun _ found => ⟨found.1.later op, found.2⟩
  have kept {front : List UInt8} (found : s.file = some front) : ∃ t text, Moment setup (past ++ [op]) t ∧
      setup.serialize ((contents t).map some) = some text ∧ front <+: text := by
    obtain ⟨t, text, moment, rest⟩ := recorded.file found
    exact ⟨t, text, moment.later op, rest⟩
  cases fileStep_of_step taken with
  | cache op inProcess stepped =>
      have keeps := inProcess_keeps inProcess stepped
      refine ⟨⟨passed, keeps.maxSize.trans moment.limit, fun entry member => ?_⟩, fun place => ?_, kept⟩
      · rcases keeps.entries entry member with before | rfl
        · exact moment.put entry before
        · exact ⟨entry.2, by simp, .inl rfl⟩
      · exact (keeps.converted place).elim converted fun same => ⟨s, moment, same⟩
  | persisted calls place stepped =>
      have returns := persist_returns place stepped
      refine ⟨moment.of_cache passed returns.cache, fun there => absurd there returns.returned, fun found => ?_⟩
      rcases persist_file _ calls s.file with ⟨-, unchanged⟩ | ⟨text, front, serialized, isFront, written, -⟩
      · exact kept (unchanged.symm.trans found)
      · obtain ⟨t, moment, rfl⟩ := converted place
        cases written.symm.trans found
        exact ⟨t, text, moment, serialized, isFront⟩
  | unlinked stepped =>
      obtain ⟨cache, syncer⟩ := clearPersistence_keeps stepped
      refine ⟨moment.of_cache passed cache, fun place => converted (syncer.symm.trans place), fun found => ?_⟩
      cases found
  | left clears => exact ⟨moment.of_cache passed rfl, converted, kept⟩
  | restarted =>
      refine recorded_new _ passed (fun entry member => ?_) kept
      obtain empty | ⟨t, before, found⟩ := recorded.restarted
      · rw [empty] at member
        cases member
      · obtain ⟨earlier, there, rfl⟩ := List.mem_map.mp (found.mem_iff.mp member)
        obtain ⟨v, put, same⟩ := (before.later _).put earlier there
        -- a value that has been in the file before is not changed again
        refine ⟨v, put, .inr ?_⟩
        rcases same with same | same
        · exact congrArg setup.convert same
        · exact (congrArg setup.convert same).trans (setup.convert_convert v)

theorem run_recorded {ops : List (FilePersistentCache.Op K V)} (done : run setup ops = .ok s) :
    Recorded setup ops s := by
  refine run_passed (P := fun _ _ => True) ?_ ?_ (along_true _ _) done
  · exact fun past s op s' done recorded _ taken => step_recorded recorded done taken
  · refine recorded_new [] (passed_of_run rfl) (fun entry member => ?_) (by simp)
    rw [contents_new (l := []) rfl List.nodup_nil (by simp)] at member
    cases member

end moments

section backing
variable [DecidableEq K] {past : List (FilePersistentCache.Op K V)}

/-- What is loaded is what was stored, perhaps read from the file again. -/
def StandsFor (setup : FileSetup K V) (loaded stored : Option (Dynamic K V)) : Prop :=
  loaded = stored ∨ loaded = stored.map (List.map (Option.map (Prod.map id setup.convert)))

/-- What the cache keeps of its persistence is in the file, if the file is not unlinked. -/
structure Backed (setup : FileSetup K V) (s : FilePersistentCache K V) : Prop where
  persistence : s.cache.persistence = some 0
  target : ∀ p, target s.cache.syncer = some p → p = 0
  stored : StandsFor setup (load setup s.file) (s.cache.persistences 0).stored
  tracked : s.cache.gaveUp = false → Tracked s.cache

theorem Recorded.loadable (recorded : Recorded setup past s) :
    Loadable setup.cacheCapacity (some (load setup s.file)) := by
  obtain unloaded | ⟨t, moment, loaded⟩ := recorded.loaded
  · rw [unloaded]
    trivial
  · rw [loaded]
    exact ⟨reread setup (contents t), rfl, moment.loadable⟩

theorem backed_new (loadable : Loadable setup.cacheCapacity (some (load setup file))) :
    Backed setup (.new setup file) := by
  obtain ⟨cache, persistence, same, -, stored, -⟩ := new_cache_eq setup file
  refine ⟨by rw [same]; rfl, fun p => ?_, ?_, fun _ => new_tracked setup.nSyncRetries loadable⟩
  · rw [same]
    simp [started, Client.target]
  · rw [same]
    exact .inl stored.symm

theorem step_backed (recorded : Recorded setup past s) (backed : Backed setup s) {op : FilePersistentCache.Op K V}
    (linked : op ≠ .unlink true) (taken : step setup s op = .ok s') : Backed setup s' := by
  cases fileStep_of_step taken with
  | cache op inProcess stepped =>
      have keeps := inProcess_keeps inProcess stepped
      refine ⟨keeps.persistence.trans backed.persistence, fun p isTarget => ?_, ?_, ?_⟩
      · rcases keeps.target p isTarget with before | current
        · exact backed.target p before
        · rw [backed.persistence] at current
          exact (Option.some.inj current).symm
      · rw [keeps.stored 0]
        exact backed.stored
      · refine step_tracked backed.tracked ?_ stepped
        cases op <;> trivial
  | @persisted calls p kvPairs version place cache stepped =>
      have returns := persist_returns place stepped
      have first : p = 0 := backed.target p (by rw [place]; rfl)
      subst first
      refine ⟨returns.persistence.trans backed.persistence, fun q isTarget => ?_, ?_, ?_⟩
      · exact Option.some.inj (isTarget.symm.trans returns.target)
      · rw [returns.stored]
        rcases persist_file kvPairs calls s.file with ⟨failed, -⟩ | ⟨text, front, serialized, -, written, whole⟩
        · rw [failed]
          exact .inl rfl
        · split
          · rename_i success
            rw [written, whole success]
            exact .inr (setup.parseJson_serialize serialized)
          · exact .inl rfl
      · refine step_tracked backed.tracked ?_ stepped
        trivial
  | unlinked => exact absurd rfl linked
  | left clears =>
      refine ⟨backed.persistence, backed.target, backed.stored, fun going => ?_⟩
      exact (backed.tracked going).updated (.refl _) _ clears
  | restarted => exact backed_new recorded.loadable

theorem Recorded.contents_new (recorded : Recorded setup past s) : ∃ l,
    (load setup s.file).getD [] = (reread setup l).map some ∧ contents (.new setup s.file) = (reread setup l).reverse := by
  obtain unloaded | ⟨t, moment, loaded⟩ := recorded.loaded
  · exact ⟨[], by rw [unloaded]; rfl, Client.contents_new (by rw [unloaded]; rfl) List.nodup_nil (by simp [reread])⟩
  · have found : (load setup s.file).getD [] = (reread setup (contents t)).map some := by rw [loaded]; rfl
    exact ⟨contents t, found, Client.contents_new found moment.loadable.1 moment.loadable.2⟩

theorem Backed.restarted (backed : Backed setup s) (recorded : Recorded setup past s) {cache : CacheMap K V}
    (holds : Holds (s.cache.persistences 0).stored cache) :
    (contents (.new setup s.file)).Perm (reread setup cache.entries) := by
  obtain ⟨l, loaded, found⟩ := recorded.contents_new
  have perm {l' : List (K × V)} (same : ((load setup s.file).getD []).Perm (l'.map some)) :
      (reread setup l).Perm l' := by
    rw [loaded] at same
    exact (List.map_perm_map_iff fun a b => Option.some.inj).mp same
  rw [found]
  refine (List.reverse_perm _).trans ?_
  rcases backed.stored with same | converted
  · -- the pairs come from a file, so that they are not changed when they are read again
    rw [← same] at holds
    rw [← reread_reread l]
    exact (perm holds).map _
  · refine perm ?_
    rw [← reread_map_some, converted]
    cases stored : (s.cache.persistences 0).stored with
    | none =>
        rw [stored] at holds
        exact List.Perm.map _ holds
    | some data =>
        rw [stored] at holds
        exact List.Perm.map _ holds

end backing

def ascii (text : String) : List UInt8 := text.toList.map fun c => c.toNat.toUInt8

def oneText [DecidableEq K] [DecidableEq V] (convert : V → V) (convert_convert : ∀ v, convert (convert v) = convert v)
    (written : Dynamic K V) (json : String) : FileSetup K V where
  convert := convert
  serialize dynObj := if dynObj = written then some (ascii json) else none
  parseJson text := if text = ascii json then some (written.map (Option.map (Prod.map id convert))) else none
  convert_convert := convert_convert
  parseJson_serialize := by
    intro dynObj text serialized
    split at serialized <;> cases serialized
    rename_i same
    rw [if_pos rfl, same]
  parseJson_front := by
    intro dynObj text front serialized isFront shorter
    split at serialized <;> cases serialized
    exact if_neg shorter
  cacheCapacity := 2

def syncOne : List (FilePersistentCache.Op Nat Nat) :=
  [.cache (.put 1 10), .cache .pick, .cache .test, .cache (.convert true), .persist (.opened 8 true true)]

def oneEntry : FileSetup Nat Nat := oneText id (fun _ => rfl) [some (1, 10)] "[[1,10]]"

section recovery
variable [DecidableEq K] (setup : FileSetup K V) (ops : List (FilePersistentCache.Op K V)) (s : FilePersistentCache K V)

/-- Wherever the process ends, the next one finds nothing or the contents that the cache had at one moment. -/
theorem restart_finds_moment (done : run setup (ops ++ [.restart]) = .ok s) :
    contents s = [] ∨ ∃ front t, front <+: ops ∧ run setup front = .ok t ∧
      (contents s).Perm (reread setup (contents t)) := by
  obtain ⟨last, reached, restarted⟩ := run_append.mp done
  cases restarted
  refine (run_recorded reached).restarted.imp_right ?_
  rintro ⟨t, moment, found⟩
  obtain ⟨front, isFront, done⟩ := moment.passed
  exact ⟨front, t, isFront, done, found⟩

theorem restart_finds_moment_one :
    ∃ s, run oneEntry (syncOne ++ [.cache (.put 2 20)] ++ [.restart]) = .ok s ∧ contents s = [(1, 10)] ∧
      (contents s = [] ∨ ∃ front t, front <+: syncOne ++ [.cache (.put 2 20)] ∧ run oneEntry front = .ok t ∧
        (contents s).Perm (reread oneEntry (contents t))) :=
  ⟨_, rfl, rfl, restart_finds_moment oneEntry (syncOne ++ [.cache (.put 2 20)]) _ rfl⟩

/-- Once there are no pending updates, the next process finds the contents of the cache, unless the sync thread has
given up or the file has been unlinked. -/
theorem restart_finds_contents (linked : .unlink true ∉ ops) (done : run setup ops = .ok s)
    (going : s.cache.gaveUp = false) (saved : s.cache.hasPendingUpdates = false) :
    (contents (.new setup s.file)).Perm (reread setup (contents s)) := by
  have backed : Backed setup s := by
    refine run_passed (I := fun _ s => Backed setup s) ?_ ?_
      (along_and (R := fun op => op ≠ .unlink true) (along_true _ ops) ?_) done
    · exact fun past s op s' done backed permitted taken => step_backed (run_recorded done) backed permitted.2 taken
    · exact backed_new trivial
    · exact fun op member same => linked (same ▸ member)
  have current : (s.cache.persistences 0).persistedVersion = s.cache.cache.version := by
    simp only [LRUPersistentCache.hasPendingUpdates, backed.persistence, LRUInMemoryCache.hasChangedSince, ne_eq,
      decide_not, Bool.not_eq_false', decide_eq_true_eq] at saved
    exact saved.symm
  have holds := (backed.tracked going).synced 0 backed.persistence current
  exact backed.restarted (run_recorded done) holds

theorem restart_finds_contents_one :
    ∃ s, run oneEntry (syncOne ++ [.cache .record]) = .ok s ∧ contents s = [(1, 10)] ∧
      (contents (.new oneEntry s.file)).Perm (reread oneEntry (contents s)) :=
  ⟨_, rfl, rfl, restart_finds_contents oneEntry (syncOne ++ [.cache .record]) _ (by simp [syncOne]) rfl rfl rfl⟩

end recovery

end Wangle.Proof.Client
