import Wangle.Ssl.TLSCredProcessor

/-!
# Which files the processor of credentials watches

The ticket file and the certificate files are in one table of the poller, which has one callback for each path.
-/

namespace Wangle.Proof.Ssl
open Wangle.Ssl Wangle.Util TLSCredProcessor FilePoller
open Wangle.Transition hiding run

variable {p : TLSCredProcessor} {poller : FilePoller Cob} {files : Files} {path name : Path}
  {parseJson : Contents → Option JsonDynamic}

def tracked (poller : FilePoller Cob) (path : Path) : Option (FileData Cob) :=
  (poller.fileDatum.lookup path).map fun fileData => { fileData with modData := {} }

theorem tracked_addFileToTrack (nonempty : path ≠ []) (cob : Cob) :
    tracked (poller.addFileToTrack files false name { yCob := some cob }) path =
      if path = name then some { yCob := some cob } else tracked poller path := by
  unfold addFileToTrack locks
  by_cases same : path = name
  · subst same
    simp [tracked, nonempty, initFileData]
  · rw [if_neg same]
    split
    · rw [tracked, AList.lookup_insert_ne same, tracked]
    · rfl

theorem tracked_removeFileToTrack (nonempty : path ≠ []) :
    tracked (poller.removeFileToTrack false name) path = if path = name then none else tracked poller path := by
  unfold removeFileToTrack locks
  by_cases same : path = name
  · subst same
    simp [tracked, nonempty]
  · rw [if_neg same]
    split
    · rw [tracked, AList.lookup_erase_ne same, tracked]
    · rfl

theorem tracked_addAll (nonempty : path ≠ []) (cob : Cob) (names : List Path) :
    tracked (names.foldl (fun poller name => poller.addFileToTrack files false name { yCob := some cob }) poller) path =
      if path ∈ names then some { yCob := some cob } else tracked poller path := by
  induction names generalizing poller with
  | nil => simp
  | cons name names ih =>
      rw [List.foldl_cons, ih, tracked_addFileToTrack nonempty]
      by_cases same : path = name
      · simp [same]
      · simp [same]

theorem tracked_removeAll (nonempty : path ≠ []) (names : List Path) :
    tracked (names.foldl (fun poller name => poller.removeFileToTrack false name) poller) path =
      if path ∈ names then none else tracked poller path := by
  induction names generalizing poller with
  | nil => simp
  | cons name names ih =>
      rw [List.foldl_cons, ih, tracked_removeFileToTrack nonempty]
      by_cases same : path = name
      · simp [same]
      · simp [same]

theorem tracked_setModData (name : Path) (modData : FileModificationData) :
    tracked (poller.setModData name modData) path = tracked poller path := by
  unfold setModData
  cases found : poller.fileDatum.lookup name with
  | none => rfl
  | some fileData =>
      by_cases same : path = name
      · subst same
        simp [tracked, found]
      · rw [tracked, AList.lookup_insert_ne same, tracked]

theorem tracked_setTicketPathToWatch (nonempty : path ≠ []) (ticketFile : Path) :
    tracked (p.setTicketPathToWatch false ticketFile).poller path =
      if path = ticketFile then some { yCob := some (.ticketFileUpdated ticketFile) }
      else if path = p.ticketFile then none else tracked p.poller path := by
  have removed : tracked (if p.ticketFile.isEmpty then p.poller else p.poller.removeFileToTrack false p.ticketFile) path =
      if path = p.ticketFile then none else tracked p.poller path := by
    split
    · rename_i empty
      rw [if_neg fun same => nonempty (same.trans (List.isEmpty_iff.mp empty))]
    · exact tracked_removeFileToTrack nonempty
  simp only [setTicketPathToWatch]
  by_cases empty : ticketFile.isEmpty
  · have other : path ≠ ticketFile := fun same => nonempty (same.trans (List.isEmpty_iff.mp empty))
    rw [if_pos empty, removed, if_neg other]
  · rw [if_neg empty, tracked_addFileToTrack nonempty, removed]

theorem tracked_setCertPathsToWatch (nonempty : path ≠ []) (certFiles : List Path) :
    tracked (p.setCertPathsToWatch false certFiles).poller path =
      if path ∈ certFiles then some { yCob := some .certFileUpdated }
      else if path ∈ p.certFiles then none else tracked p.poller path := by
  rw [setCertPathsToWatch, tracked_addAll nonempty, tracked_removeAll nonempty]

theorem poller_setTicketPathToWatch_refused (ticketFile : Path) :
    (p.setTicketPathToWatch true ticketFile).poller = p.poller := by
  simp [setTicketPathToWatch, addFileToTrack, removeFileToTrack, locks]

theorem poller_setCertPathsToWatch_refused (certFiles : List Path) :
    (p.setCertPathsToWatch true certFiles).poller = p.poller := by
  have refused {f : FilePoller Cob → Path → FilePoller Cob} (same : ∀ poller path, f poller path = poller)
      (names : List Path) (poller : FilePoller Cob) : names.foldl f poller = poller := by
    induction names with
    | nil => rfl
    | cons name names ih => rw [List.foldl_cons, same, ih]
  rw [setCertPathsToWatch]
  dsimp only
  rw [refused fun _ _ => by simp [addFileToTrack, locks], refused fun _ _ => by simp [removeFileToTrack, locks]]

def expected (p : TLSCredProcessor) (path : Path) : List Cob :=
  (if path = p.ticketFile then [.ticketFileUpdated path] else []) ++ if path ∈ p.certFiles then [.certFileUpdated] else []

/-- As the poller assumes of a modification, it has a time other than the one last seen. -/
def Unseen (p : TLSCredProcessor) (path : Path) (file : File) : Prop :=
  ∀ fileData ∈ p.poller.fileDatum.lookup path, fileData.modData.fileExists → file.modTime ≠ fileData.modData.modTime

/-- A change of any file triggers what it is to trigger, and nothing else. -/
def Watches (p : TLSCredProcessor) : Prop :=
  ∀ path file, path ≠ [] → Unseen p path file → (p.write path (some file)).triggered path = expected p path

def Tracks (p : TLSCredProcessor) (path : Path) (cob : Option Cob) : Prop :=
  tracked p.poller path = cob.map fun cob => { yCob := some cob }

theorem Tracks.triggered {cob : Option Cob} (tracks : Tracks p path cob) (nonempty : path ≠ []) {file : File}
    (unseen : Unseen p path file) : (p.write path (some file)).triggered path = cob.toList := by
  have modData : getFileModData (p.write path (some file)).files path = ⟨true, file.modTime⟩ := by
    simp [getFileModData, openFile, write, nonempty]
  rw [TLSCredProcessor.triggered, modData]
  change ((p.poller.fileDatum.lookup path).bind _).toList = _
  rw [Tracks, tracked] at tracks
  cases found : p.poller.fileDatum.lookup path with
  | none =>
      rw [found] at tracks
      cases cob with
      | none => rfl
      | some cob => cases tracks
  | some fileData =>
      rw [found] at tracks
      cases cob with
      | none => cases tracks
      | some cob =>
          obtain ⟨yCob, nCob, condition, seen⟩ := fileData
          simp only [Option.map_some, Option.some.injEq, FileData.mk.injEq] at tracks
          obtain ⟨rfl, rfl, rfl, -⟩ := tracks
          have touched : fileTouchedCondInternal seen ⟨true, file.modTime⟩ = true := by
            cases known : seen.fileExists with
            | false => simp [fileTouchedCondInternal, known]
            | true => simpa [fileTouchedCondInternal, known] using unseen _ found known
          simp [FileData.cob, touched]

theorem exists_unseen (p : TLSCredProcessor) (path : Path) : ∃ file, Unseen p path file := by
  cases found : p.poller.fileDatum.lookup path with
  | none => exact ⟨⟨0, none⟩, by simp [Unseen, found]⟩
  | some fileData =>
      refine ⟨⟨fileData.modData.modTime + 1, none⟩, ?_⟩
      simp only [Unseen, found, Option.mem_def, Option.some.injEq, forall_eq']
      omega

theorem Watches.expected_eq {cob : Option Cob} (watches : Watches p) (nonempty : path ≠ []) (tracks : Tracks p path cob) :
    expected p path = cob.toList := by
  obtain ⟨file, unseen⟩ := exists_unseen p path
  rw [← watches path file nonempty unseen, tracks.triggered nonempty unseen]

theorem Watches.length_expected_le (watches : Watches p) (nonempty : path ≠ []) : (expected p path).length ≤ 1 := by
  obtain ⟨file, unseen⟩ := exists_unseen p path
  rw [← watches path file nonempty unseen, TLSCredProcessor.triggered]
  exact Option.length_toList_le

def watchedBy (p : TLSCredProcessor) (path : Path) : Option Cob :=
  if path = p.ticketFile then some (.ticketFileUpdated path)
  else if path ∈ p.certFiles then some .certFileUpdated else none

structure Consistent (p : TLSCredProcessor) : Prop where
  separate : p.ticketFile = [] ∨ p.ticketFile ∉ p.certFiles
  tracks : ∀ path, path ≠ [] → Tracks p path (watchedBy p path)

theorem Consistent.not_cert (consistent : Consistent p) (nonempty : path ≠ []) (isTicket : path = p.ticketFile) :
    path ∉ p.certFiles := by
  subst isTicket
  exact consistent.separate.resolve_left nonempty

theorem Consistent.expected_eq (consistent : Consistent p) (nonempty : path ≠ []) :
    expected p path = (watchedBy p path).toList := by
  unfold expected watchedBy
  by_cases isTicket : path = p.ticketFile
  · have notCert := consistent.not_cert nonempty isTicket
    simp [if_pos isTicket, notCert]
  · by_cases isCert : path ∈ p.certFiles <;> simp [isTicket, isCert]

theorem Consistent.watches (consistent : Consistent p) : Watches p := by
  intro path file nonempty unseen
  rw [(consistent.tracks path nonempty).triggered nonempty unseen, consistent.expected_eq nonempty]

/-- A call that keeps the two kinds of files apart, and that changes nothing if it is made in a callback. -/
def KeepsApart (p : TLSCredProcessor) : Op → Prop
  | .setTicketPathToWatch false ticketFile => ticketFile = [] ∨ ticketFile ∉ p.certFiles
  | .setTicketPathToWatch true ticketFile => ticketFile = p.ticketFile
  | .setCertPathsToWatch false certFiles => p.ticketFile = [] ∨ p.ticketFile ∉ certFiles
  | .setCertPathsToWatch true certFiles =>
      (∀ path ∈ certFiles, path = [] ∨ path ∈ p.certFiles) ∧ ∀ path ∈ p.certFiles, path = [] ∨ path ∈ certFiles
  | _ => True

theorem Consistent.setTicketPathToWatch {ticketFile : Path} (consistent : Consistent p)
    (apart : ticketFile = [] ∨ ticketFile ∉ p.certFiles) : Consistent (p.setTicketPathToWatch false ticketFile) where
  separate := apart
  tracks path nonempty := by
    rw [Tracks, tracked_setTicketPathToWatch nonempty]
    change _ = (if path = ticketFile then some (Cob.ticketFileUpdated path)
      else if path ∈ p.certFiles then some Cob.certFileUpdated else none).map _
    by_cases isNew : path = ticketFile
    · rw [if_pos isNew, if_pos isNew, isNew]
      rfl
    · rw [if_neg isNew, if_neg isNew]
      by_cases isOld : path = p.ticketFile
      · have notCert := consistent.not_cert nonempty isOld
        rw [if_pos isOld, if_neg notCert]
        rfl
      · have tracks := consistent.tracks path nonempty
        rw [Tracks, watchedBy, if_neg isOld] at tracks
        rw [if_neg isOld, tracks]

theorem Consistent.setCertPathsToWatch {certFiles : List Path} (consistent : Consistent p)
    (apart : p.ticketFile = [] ∨ p.ticketFile ∉ certFiles) : Consistent (p.setCertPathsToWatch false certFiles) where
  separate := apart
  tracks path nonempty := by
    rw [Tracks, tracked_setCertPathsToWatch nonempty]
    change _ = (if path = p.ticketFile then some (Cob.ticketFileUpdated path)
      else if path ∈ certFiles then some Cob.certFileUpdated else none).map _
    have tracks := consistent.tracks path nonempty
    rw [Tracks, watchedBy] at tracks
    by_cases isTicket : path = p.ticketFile
    · have notNew : path ∉ certFiles := isTicket ▸ apart.resolve_left (isTicket ▸ nonempty)
      have notOld := consistent.not_cert nonempty isTicket
      rw [if_pos isTicket] at tracks
      rw [if_neg notNew, if_neg notOld, if_pos isTicket, tracks]
    · rw [if_neg isTicket] at tracks
      rw [if_neg isTicket]
      by_cases isNew : path ∈ certFiles
      · rw [if_pos isNew, if_pos isNew]
        rfl
      · rw [if_neg isNew, if_neg isNew]
        by_cases isOld : path ∈ p.certFiles
        · rw [if_pos isOld]
          rfl
        · rw [if_neg isOld] at tracks ⊢
          rw [tracks]

theorem Consistent.setPollInterval {p' : TLSCredProcessor} (consistent : Consistent p)
    (done : p.setPollInterval false = .ok p') : Consistent p' := by
  cases done
  refine ⟨consistent.separate, fun path nonempty => ?_⟩
  rw [Tracks, tracked_setCertPathsToWatch nonempty, tracked_setTicketPathToWatch nonempty]
  change (if path ∈ p.certFiles then _ else if path ∈ p.certFiles then _ else
    if path = p.ticketFile then _ else if path = p.ticketFile then _ else _) = (watchedBy p path).map _
  rw [watchedBy]
  by_cases isTicket : path = p.ticketFile
  · have notCert := consistent.not_cert nonempty isTicket
    simp [notCert, ← isTicket]
  · by_cases isCert : path ∈ p.certFiles <;> simp [isTicket, isCert, tracked]

theorem Consistent.of_same {p' : TLSCredProcessor} (consistent : Consistent p) (sameTicket : p'.ticketFile = p.ticketFile)
    (sameCerts : ∀ path, path ≠ [] → (path ∈ p'.certFiles ↔ path ∈ p.certFiles))
    (sameTable : ∀ path, tracked p'.poller path = tracked p.poller path) : Consistent p' where
  separate := by
    by_cases empty : p.ticketFile = []
    · exact .inl (sameTicket.trans empty)
    · rw [sameTicket, sameCerts p.ticketFile empty]
      exact consistent.separate
  tracks path nonempty := by
    have tracks := consistent.tracks path nonempty
    rw [Tracks, watchedBy] at tracks
    rw [Tracks, watchedBy, sameTable, sameTicket, tracks]
    simp only [sameCerts path nonempty]

theorem checkFiles_same (p : TLSCredProcessor) (paths : List Path) :
    (paths.foldl (checkFile parseJson) p).ticketFile = p.ticketFile ∧
      (paths.foldl (checkFile parseJson) p).certFiles = p.certFiles ∧
        ∀ path, tracked (paths.foldl (checkFile parseJson) p).poller path = tracked p.poller path := by
  induction paths generalizing p with
  | nil => exact ⟨rfl, rfl, fun _ => rfl⟩
  | cons name paths ih =>
      obtain ⟨sameTicket, sameCerts, sameTable⟩ := ih (checkFile parseJson p name)
      exact ⟨sameTicket, sameCerts, fun path => (sameTable path).trans (tracked_setModData ..)⟩

theorem Consistent.step {p' : TLSCredProcessor} {op : Op} (consistent : Consistent p) (apart : KeepsApart p op)
    (taken : TLSCredProcessor.step parseJson p op = .ok p') : Consistent p' := by
  cases op with
  | setTicketPathToWatch inPollerThread ticketFile =>
      cases taken
      cases inPollerThread with
      | false => exact consistent.setTicketPathToWatch apart
      | true =>
          refine consistent.of_same apart (fun _ _ => Iff.rfl) fun path => ?_
          rw [poller_setTicketPathToWatch_refused]
  | setCertPathsToWatch inPollerThread certFiles =>
      cases taken
      cases inPollerThread with
      | false => exact consistent.setCertPathsToWatch apart
      | true =>
          refine consistent.of_same rfl (fun path nonempty => ⟨fun isNew => ?_, fun isOld => ?_⟩) fun path => ?_
          · exact (apart.1 path isNew).resolve_left nonempty
          · exact (apart.2 path isOld).resolve_left nonempty
          · rw [poller_setCertPathsToWatch_refused]
  | setPollInterval inPollerThread =>
      cases inPollerThread with
      | false => exact consistent.setPollInterval taken
      | true => cases taken
  | checkFiles =>
      cases taken
      obtain ⟨sameTicket, sameCerts, sameTable⟩ := @checkFiles_same parseJson p p.poller.fileDatum.keys
      exact consistent.of_same sameTicket (fun _ _ => by rw [TLSCredProcessor.checkFiles, sameCerts]) sameTable
  | addTicketCallback callback | addCertCallback callback | write path file =>
      cases taken
      exact consistent.of_same rfl (fun _ _ => Iff.rfl) fun _ => rfl

theorem Watches.separate (watches : Watches p) : p.ticketFile = [] ∨ p.ticketFile ∉ p.certFiles := by
  by_cases empty : p.ticketFile = []
  · exact .inl empty
  · refine .inr fun isCert => ?_
    have few := watches.length_expected_le empty
    simp [expected, isCert] at few

theorem Watches.same_expected {p' : TLSCredProcessor} (watches : Watches p') (consistent : Consistent p)
    (sameTable : p'.poller = p.poller) (nonempty : path ≠ []) : expected p' path = expected p path := by
  have tracks := consistent.tracks path nonempty
  rw [consistent.expected_eq nonempty]
  refine watches.expected_eq nonempty ?_
  rwa [Tracks, sameTable]

theorem ticket_of_expected {p' : TLSCredProcessor}
    (same : ∀ path, path ≠ [] → expected p' path = expected p path) : p'.ticketFile = p.ticketFile := by
  have iff (path : Path) (nonempty : path ≠ []) : path = p'.ticketFile ↔ path = p.ticketFile := by
    have mem := congrArg (Cob.ticketFileUpdated path ∈ ·) (same path nonempty)
    simpa [expected] using mem
  by_cases empty : p'.ticketFile = []
  · by_cases empty' : p.ticketFile = []
    · rw [empty, empty']
    · exact ((iff _ empty').mpr rfl).symm
  · exact (iff _ empty).mp rfl

theorem certs_of_expected {p' : TLSCredProcessor} (same : expected p' path = expected p path) :
    path ∈ p'.certFiles ↔ path ∈ p.certFiles := by
  have mem := congrArg (Cob.certFileUpdated ∈ ·) same
  simpa [expected] using mem

theorem step_breaks_watch (consistent : Consistent p) {op : Op} (mixes : ¬ KeepsApart p op) :
    ∃ p', TLSCredProcessor.step parseJson p op = .ok p' ∧ ¬ Watches p' := by
  cases op with
  | setTicketPathToWatch inPollerThread ticketFile =>
      refine ⟨_, rfl, fun watches => mixes ?_⟩
      cases inPollerThread with
      | false => exact watches.separate
      | true =>
          exact ticket_of_expected fun path nonempty =>
            watches.same_expected consistent (poller_setTicketPathToWatch_refused _) nonempty
  | setCertPathsToWatch inPollerThread certFiles =>
      refine ⟨_, rfl, fun watches => mixes ?_⟩
      cases inPollerThread with
      | false => exact watches.separate
      | true =>
          have same (path : Path) (nonempty : path ≠ []) : path ∈ certFiles ↔ path ∈ p.certFiles :=
            certs_of_expected (watches.same_expected consistent (poller_setCertPathsToWatch_refused _) nonempty)
          refine ⟨fun path isNew => ?_, fun path isOld => ?_⟩
          · exact Classical.or_iff_not_imp_left.mpr fun nonempty => (same path nonempty).mp isNew
          · exact Classical.or_iff_not_imp_left.mpr fun nonempty => (same path nonempty).mpr isOld
  | _ => exact absurd trivial mixes

/-- The files that are watched are the right ones all along exactly the runs that keep ticket and certificate files
apart, and in which callbacks change no path. -/
theorem credentials_watched_iff (parseJson : Contents → Option JsonDynamic) (files : Files) (ops : List Op) :
    (∀ front p, front <+: ops → run parseJson { files } front = .ok p → Watches p) ↔
      Along (TLSCredProcessor.step parseJson) KeepsApart { files } ops := by
  refine always_iff_along (I := Consistent) (Q := Watches) (fun _ _ _ consistent apart taken => consistent.step apart taken)
    (fun _ _ consistent mixes => step_breaks_watch consistent mixes) (fun _ consistent => consistent.watches) ?_
  refine ⟨.inl rfl, fun path nonempty => ?_⟩
  simp [Tracks, tracked, watchedBy, nonempty]

/-- The ticket file is also a certificate file for a while. When it no longer is, nothing watches it. -/
theorem ticket_file_unwatched :
    ∃ p, run (fun _ => none) { files := fun _ => none } [.setTicketPathToWatch false ['a'],
        .setCertPathsToWatch false [['a']], .setCertPathsToWatch false []] = .ok p ∧
      p.ticketFile = ['a'] ∧ p.certFiles = [] ∧ (p.write ['a'] (some ⟨1, none⟩)).triggered ['a'] = [] ∧ ¬ Watches p := by
  refine ⟨_, rfl, rfl, rfl, rfl, fun watches => ?_⟩
  have wrong := watches.expected_eq (by decide) (show Tracks _ ['a'] none from rfl)
  revert wrong
  decide

end Wangle.Proof.Ssl
