import Wangle.Proof.Ssl.TicketKeys

/-!
# Tickets between managers and across rotations

A manager that can decrypt a ticket is asked to only as long as it can also issue tickets.
-/

namespace Wangle.Proof.Ssl
open Wangle.Ssl Wangle.Numeral Wangle.Spec TLSTicketKeyManager
open Wangle.Transition hiding run

variable (sha256 : Bytes → Digest)

def IsRequest : Op → Prop
  | .processTicket .. => True
  | .setTLSTicketKeySeeds _ => False

def Given (seeds : TLSTicketKeySeeds) (m : TLSTicketKeyManager) : Prop :=
  ∃ before requests, (∀ op ∈ requests, IsRequest op) ∧
    run sha256 before (.setTLSTicketKeySeeds seeds :: requests) = .ok m

def RecordsValid (m : TLSTicketKeyManager) (next : TLSTicketKeySeeds) : Prop :=
  ∃ calls, m.stats = some calls ∧
    (setTLSTicketKeySeeds sha256 next m).2.stats = some (calls ++ [.recordTLSTicketRotation true])

/-- A rotation that is recorded as valid. The seed does not leave the old list. -/
def Rotates (s : Bytes) (m : TLSTicketKeyManager) : Op → Prop
  | .setTLSTicketKeySeeds next => RecordsValid sha256 m next ∧ Separate sha256 next ∧
      (s ∈ (ringOf m.getTLSTicketKeySeeds).old → s ∈ (ringOf next).old)
  | .processTicket .. => True

variable {sha256} {seeds next : TLSTicketKeySeeds} {m m' : TLSTicketKeyManager} {s : Bytes}

theorem Given.configured (given : Given sha256 seeds m) : Configured sha256 seeds m := by
  obtain ⟨before, requests, each, done⟩ := given
  obtain ⟨first, taken, done⟩ := run_cons.mp done
  cases taken
  refine run_invariant ?_ (setTLSTicketKeySeeds_configured seeds before) (along_and (along_true _ requests) each) done
  intro m op m' configured permitted taken
  cases op with
  | setTLSTicketKeySeeds next => exact permitted.2.elim
  | processTicket ticket random encrypt =>
      cases taken
      exact processTicket_configured configured ticket random encrypt

theorem decoded_seedsOf (type : TLSTicketSeedType) (m : TLSTicketKeyManager) :
    decoded (m.seedsOf type) = (m.ticketSeeds.filter fun seed => seed.type = type).map TLSTicketSeed.seed := by
  simp [decoded, seedsOf, List.filterMap_map, unhexlify_hexlify]

theorem Configured.ring_eq (configured : Configured sha256 seeds m) :
    ringOf m.getTLSTicketKeySeeds = ringOf seeds := by
  simp [ringOf, getTLSTicketKeySeeds, decoded_seedsOf, configured.seeds, allSeeds, seedList, List.filter_map, seedOf,
    Function.comp_def]

theorem decoded_subset {lhs rhs : List String} (subset : TLSTicketKeySeeds.areSeedsSubset lhs rhs = true)
    (member : s ∈ decoded lhs) : s ∈ decoded rhs := by
  simp only [TLSTicketKeySeeds.areSeedsSubset] at subset
  split at subset
  · cases subset
  · obtain ⟨text, listed, decodes⟩ := List.mem_filterMap.mp member
    have also : text ∈ rhs := by simpa using List.all_eq_true.mp subset text listed
    exact List.mem_filterMap.mpr ⟨text, also, decodes⟩

theorem isValidRotation_keeps (valid : seeds.isValidRotation next = true) : (ringOf seeds).Keeps (ringOf next) := by
  intro s current
  simp only [TLSTicketKeySeeds.isValidRotation, Bool.or_eq_true, Bool.and_eq_true] at valid
  rcases valid with (⟨isEmpty, -⟩ | ⟨-, toOld⟩) | ⟨⟨-, toCurrent⟩, -⟩
  · simp only [TLSTicketKeySeeds.isEmpty, Bool.and_eq_true, List.isEmpty_iff] at isEmpty
    change s ∈ decoded seeds.currentSeeds at current
    rw [isEmpty.1.2] at current
    cases current
  · exact .inl (decoded_subset toOld current)
  · exact .inr (decoded_subset toCurrent current)

theorem foldl_addSeed_stats (l : List TLSTicketSeed) (m : TLSTicketKeyManager) :
    (l.foldl (addSeed sha256) m).stats = m.stats := by
  induction l generalizing m with
  | nil => rfl
  | cons seed l ih => exact (ih (addSeed sha256 m seed)).trans rfl

theorem setTLSTicketKeySeeds_stats (next : TLSTicketKeySeeds) (m : TLSTicketKeyManager) :
    (setTLSTicketKeySeeds sha256 next m).2.stats = (m.recordTlsTicketRotation next).stats := by
  simp only [setTLSTicketKeySeeds, insertSeeds_eq]
  split <;> simp only [foldl_addSeed_stats]

theorem RecordsValid.isValidRotation (valid : RecordsValid sha256 m next) :
    m.getTLSTicketKeySeeds.isValidRotation next = true := by
  obtain ⟨calls, told, recorded⟩ := valid
  rw [setTLSTicketKeySeeds_stats] at recorded
  simpa [recordTlsTicketRotation, record, told] using recorded

theorem Configured.rotates {op : Op} (configured : Configured sha256 seeds m) (separate : Separate sha256 seeds)
    (live : (ringOf seeds).Live s) (rotates : Rotates sha256 s m op) (taken : step sha256 m op = .ok m') :
    ∃ seeds', Configured sha256 seeds' m' ∧ Separate sha256 seeds' ∧ (ringOf seeds').Live s := by
  cases op with
  | processTicket ticket random encrypt =>
      cases taken
      exact ⟨seeds, processTicket_configured configured ticket random encrypt, separate, live⟩
  | setTLSTicketKeySeeds next =>
      cases taken
      obtain ⟨valid, separateNext, stays⟩ := rotates
      have keeps := isValidRotation_keeps valid.isValidRotation
      rw [configured.ring_eq] at keeps stays
      exact ⟨next, setTLSTicketKeySeeds_configured next m, separateNext, keeps.live stays live⟩

theorem Configured.accepted_iff (configured : Configured sha256 seeds m) (separate : Separate sha256 seeds)
    (decrypts : (ringOf seeds).Decrypts s) (salt : Salt) (iv : Bytes) :
    Accepted sha256 m (ticketOf sha256 s salt iv) (contextsOf sha256 s salt iv) ↔ (ringOf seeds).Serves := by
  rw [Proof.Ssl.accepted_iff, configured.ticketKeyCb_iff separate]
  exact and_iff_left (configured.decrypted separate decrypts salt iv)

section examples

def padded (bytes : Bytes) : Digest := ⟨(bytes ++ List.replicate 32 0).take 32, by simp⟩

def noSalt : Salt := ⟨List.replicate 12 0, List.length_replicate⟩

def seedA : Bytes := [0xaa]
def seedB : Bytes := [0xbb]
def seedC : Bytes := [0xcc]

theorem decrypts_listed {l : List Bytes}
    (listed : ∀ s ∈ decoded (seeds.oldSeeds ++ seeds.currentSeeds ++ seeds.newSeeds), s ∈ l) (s : Bytes)
    (decrypts : (ringOf seeds).Decrypts s) : s ∈ l := by
  apply listed
  simp only [decoded, List.filterMap_append, List.mem_append]
  exact or_assoc.mpr decrypts

theorem padded_separate {S : Set Bytes} (listed : ∀ s ∈ S, s ∈ [seedA, seedB, seedC]) : S.InjOn (nameOf padded) := by
  have apart : ∀ a ∈ [seedA, seedB, seedC], ∀ b ∈ [seedA, seedB, seedC], nameOf padded a = nameOf padded b → a = b := by
    decide
  exact fun a memberA b memberB => apart a (listed a memberA) b (listed b memberB)

theorem given_new (seeds : TLSTicketKeySeeds) :
    Given padded seeds (setTLSTicketKeySeeds padded seeds { stats := some [] }).2 :=
  ⟨_, [], by simp, rfl⟩

end examples

theorem tickets_portable (sha256 : Bytes → Digest) (a b : TLSTicketKeySeeds) (A B : TLSTicketKeyManager)
    (givenA : Given sha256 a A) (givenB : Given sha256 b B) (separateA : Separate sha256 a)
    (separateB : Separate sha256 b) :
    (∀ s, s ∈ (ringOf a).current → (ringOf b).Decrypts s → ∀ ticket contexts, Issued sha256 A ticket contexts →
      ticket.keyName.take kTLSTicketKeyNameLen = nameOf sha256 s →
        Decrypted sha256 B ticket contexts ∧ (Accepted sha256 B ticket contexts ↔ (ringOf b).Serves)) ∧
      ∀ ticket random, (∀ s, (ringOf b).Decrypts s → nameOf sha256 s ≠ ticket.keyName.take kTLSTicketKeyNameLen) →
        (B.processTicket sha256 ticket random false).result = 0 := by
  constructor
  · intro s current decrypts ticket contexts issued named
    obtain ⟨s', salt, iv, issues, rfl, rfl⟩ := givenA.configured.issued issued
    rw [ticketOf_name] at named
    obtain rfl := separateA (.inr (.inl issues.1)) (.inr (.inl current)) named
    exact ⟨givenB.configured.decrypted separateB decrypts salt iv,
      givenB.configured.accepted_iff separateB decrypts salt iv⟩
  · exact fun ticket random unknown => givenB.configured.refused ticket random unknown

theorem tickets_portable_to_old :
    ∃ A B ticket contexts, Given padded ⟨[], ["aa"], []⟩ A ∧ Given padded ⟨["AA"], ["bb"], []⟩ B ∧
      Issued padded A ticket contexts ∧ Accepted padded B ticket contexts := by
  have separateA : Separate padded ⟨[], ["aa"], []⟩ := padded_separate (decrypts_listed (by decide))
  have separateB : Separate padded ⟨["AA"], ["bb"], []⟩ := padded_separate (decrypts_listed (by decide))
  have issues : (ringOf ⟨[], ["aa"], []⟩).Issues seedA := by decide
  have issued := (given_new ⟨[], ["aa"], []⟩).configured.issued_of_issues separateA issues noSalt []
  have portable := (tickets_portable padded _ _ _ _ (given_new _) (given_new _) separateA separateB).1 seedA
    issues.1 (by decide) _ _ issued (ticketOf_name _ _ _)
  exact ⟨_, _, _, _, given_new _, given_new _, issued, portable.2.mpr ⟨seedB, by decide⟩⟩

/-- A manager that is given an old seed and no current one is not asked about tickets. -/
theorem old_seed_alone_not_accepted :
    ∃ A B ticket contexts, Given padded ⟨[], ["aa"], []⟩ A ∧ Given padded ⟨["aa"], [], []⟩ B ∧
      Separate padded ⟨[], ["aa"], []⟩ ∧ Separate padded ⟨["aa"], [], []⟩ ∧
      seedA ∈ (ringOf ⟨[], ["aa"], []⟩).current ∧ (ringOf ⟨["aa"], [], []⟩).Decrypts seedA ∧
      Issued padded A ticket contexts ∧ ticket.keyName.take kTLSTicketKeyNameLen = nameOf padded seedA ∧
      ¬ Accepted padded B ticket contexts := by
  have separateA : Separate padded ⟨[], ["aa"], []⟩ := padded_separate (decrypts_listed (by decide))
  have separateB : Separate padded ⟨["aa"], [], []⟩ := padded_separate (decrypts_listed (by decide))
  have issues : (ringOf ⟨[], ["aa"], []⟩).Issues seedA := by decide
  have decrypts : (ringOf ⟨["aa"], [], []⟩).Decrypts seedA := by decide
  have issued := (given_new ⟨[], ["aa"], []⟩).configured.issued_of_issues separateA issues noSalt []
  refine ⟨_, _, _, _, given_new _, given_new _, separateA, separateB, issues.1, decrypts, issued, ticketOf_name _ _ _, ?_⟩
  intro accepted
  obtain ⟨s, current, -⟩ := ((given_new _).configured.accepted_iff separateB decrypts noSalt []).mp accepted
  cases current

/-- Rotations that are recorded as valid keep the tickets that the manager can have issued, until their seeds leave
the old list. The SSL library asks the manager as long as it can issue tickets. -/
theorem rotations_keep_tickets (sha256 : Bytes → Digest) (stats : Option (List SSLStatsCall)) (ops : List Op)
    (m : TLSTicketKeyManager) (done : run sha256 { stats } ops = .ok m)
    (separate : Separate sha256 m.getTLSTicketKeySeeds) (ticket : Ticket) (contexts : Contexts)
    (issued : Issued sha256 m ticket contexts) :
    (∀ next, RecordsValid sha256 m next → Separate sha256 next →
      Decrypted sha256 (setTLSTicketKeySeeds sha256 next m).2 ticket contexts ∧
        (Accepted sha256 (setTLSTicketKeySeeds sha256 next m).2 ticket contexts ↔ (ringOf next).Serves)) ∧
      ∃ s, ticket.keyName.take kTLSTicketKeyNameLen = nameOf sha256 s ∧
        (ringOf m.getTLSTicketKeySeeds).Issues s ∧
        ∀ rotations m', Along (step sha256) (Rotates sha256 s) m rotations → run sha256 m rotations = .ok m' →
          Decrypted sha256 m' ticket contexts ∧
            (Accepted sha256 m' ticket contexts ↔ (ringOf m'.getTLSTicketKeySeeds).Serves) := by
  obtain ⟨seeds, configured⟩ := run_configured done
  obtain ⟨s, salt, iv, issues, rfl, rfl⟩ := configured.issued issued
  have chain (rotations : List Op) (m' : TLSTicketKeyManager)
      (rotates : Along (step sha256) (Rotates sha256 s) m rotations) (done : run sha256 m rotations = .ok m') :
      Decrypted sha256 m' (ticketOf sha256 s salt iv) (contextsOf sha256 s salt iv) ∧
        (Accepted sha256 m' (ticketOf sha256 s salt iv) (contextsOf sha256 s salt iv) ↔
          (ringOf m'.getTLSTicketKeySeeds).Serves) := by
    obtain ⟨seeds', configured', separate', live⟩ := run_invariant
      (I := fun m => ∃ seeds, Configured sha256 seeds m ∧ Separate sha256 seeds ∧ (ringOf seeds).Live s)
      (fun m op m' ⟨seeds, configured, separate, live⟩ rotates taken => configured.rotates separate live rotates taken)
      ⟨seeds, configured, by rwa [Separate, configured.ring_eq] at separate, issues.live⟩ rotates done
    rw [configured'.ring_eq]
    exact ⟨configured'.decrypted separate' live.decrypts salt iv, configured'.accepted_iff separate' live.decrypts salt iv⟩
  refine ⟨fun next valid separateNext => ?_, s, ticketOf_name s salt iv, configured.ring_eq ▸ issues, chain⟩
  have rotates : Rotates sha256 s m (.setTLSTicketKeySeeds next) := by
    refine ⟨valid, separateNext, fun old => ?_⟩
    rw [configured.ring_eq] at old
    exact absurd old issues.2
  have kept := chain [.setTLSTicketKeySeeds next] _ ⟨rotates, fun _ _ => trivial⟩ rfl
  rwa [(setTLSTicketKeySeeds_configured next m).ring_eq] at kept

theorem rotations_keep_tickets_twice :
    ∃ m m' ticket contexts, run padded { stats := some [] } [.setTLSTicketKeySeeds ⟨[], ["aa"], ["bb"]⟩] = .ok m ∧
      Issued padded m ticket contexts ∧
      run padded m [.setTLSTicketKeySeeds ⟨["aa"], ["bb"], ["cc"]⟩, .setTLSTicketKeySeeds ⟨["aa", "bb"], ["cc"], []⟩] =
        .ok m' ∧ Accepted padded m' ticket contexts := by
  have separate (seeds : TLSTicketKeySeeds)
      (listed : ∀ s ∈ decoded (seeds.oldSeeds ++ seeds.currentSeeds ++ seeds.newSeeds), s ∈ [seedA, seedB, seedC]) :
      Separate padded seeds := padded_separate (decrypts_listed listed)
  have configured := (given_new ⟨[], ["aa"], ["bb"]⟩).configured
  have issued := configured.issued_of_issues (s := seedA) (separate _ (by decide)) (by decide) noSalt []
  obtain ⟨-, s, -, issues, chain⟩ := rotations_keep_tickets padded (some [])
    [.setTLSTicketKeySeeds ⟨[], ["aa"], ["bb"]⟩] _ rfl
    (by rw [Separate, configured.ring_eq]; exact separate _ (by decide)) _ _ issued
  obtain rfl : s = seedA := by
    rw [configured.ring_eq] at issues
    simpa using (show s ∈ [seedA] from issues.1)
  have old : seedA ∈ (ringOf ⟨["aa"], ["bb"], ["cc"]⟩).old := show seedA ∈ decoded ["aa"] by decide
  have still : seedA ∈ (ringOf ⟨["aa", "bb"], ["cc"], []⟩).old := show seedA ∈ decoded ["aa", "bb"] by decide
  have kept := chain [.setTLSTicketKeySeeds ⟨["aa"], ["bb"], ["cc"]⟩, .setTLSTicketKeySeeds ⟨["aa", "bb"], ["cc"], []⟩] _
    ⟨⟨⟨_, rfl, by decide⟩, separate _ (by decide), fun _ => old⟩, fun next taken => by
      cases taken
      exact ⟨⟨⟨_, rfl, by decide⟩, separate _ (by decide), fun _ => still⟩, fun _ _ => trivial⟩⟩ rfl
  exact ⟨_, _, _, _, rfl, issued, rfl, kept.2.mpr ⟨seedC, by decide⟩⟩

/-- A rotation that leaves no current seed is recorded as valid. -/
theorem valid_rotation_without_current_seed :
    ∃ m ticket contexts, run padded { stats := some [] } [.setTLSTicketKeySeeds ⟨[], ["aa"], []⟩] = .ok m ∧
      Issued padded m ticket contexts ∧ RecordsValid padded m ⟨["aa"], [], []⟩ ∧
      Separate padded m.getTLSTicketKeySeeds ∧ Separate padded ⟨["aa"], [], []⟩ ∧
      ¬ Accepted padded (setTLSTicketKeySeeds padded ⟨["aa"], [], []⟩ m).2 ticket contexts := by
  have separate : Separate padded ⟨[], ["aa"], []⟩ := padded_separate (decrypts_listed (by decide))
  have separateNext : Separate padded ⟨["aa"], [], []⟩ := padded_separate (decrypts_listed (by decide))
  have issues : (ringOf ⟨[], ["aa"], []⟩).Issues seedA := by decide
  have decrypts : (ringOf ⟨["aa"], [], []⟩).Decrypts seedA := by decide
  have configured := (given_new ⟨[], ["aa"], []⟩).configured
  refine ⟨_, _, _, rfl, configured.issued_of_issues separate issues noSalt [], ⟨_, rfl, by decide⟩, ?_, separateNext, ?_⟩
  · rw [Separate, configured.ring_eq]
    exact separate
  · intro accepted
    have next : Configured padded ⟨["aa"], [], []⟩ (setTLSTicketKeySeeds padded ⟨["aa"], [], []⟩
        (setTLSTicketKeySeeds padded ⟨[], ["aa"], []⟩ { stats := some [] }).2).2 :=
      setTLSTicketKeySeeds_configured _ _
    obtain ⟨s, current, -⟩ := (next.accepted_iff separateNext decrypts noSalt []).mp accepted
    cases current

/-- While a cluster rotates, the servers that have not rotated yet decrypt the tickets of those that have exactly if
they know the seeds with which these issue tickets. -/
theorem mixed_fleet_iff (sha256 : Bytes → Digest) (cur next : TLSTicketKeySeeds) (behind ahead : TLSTicketKeyManager)
    (givenCur : Given sha256 cur behind) (givenNext : Given sha256 next ahead)
    (separate : Set.InjOn (nameOf sha256) { s | (ringOf cur).Decrypts s ∨ (ringOf next).Decrypts s }) :
    (∀ ticket contexts, Issued sha256 ahead ticket contexts → Decrypted sha256 behind ticket contexts) ↔
      ∀ s, (ringOf next).Issues s → (ringOf cur).Decrypts s := by
  have separateCur : Separate sha256 cur := separate.mono fun s decrypts => .inl decrypts
  have separateNext : Separate sha256 next := separate.mono fun s decrypts => .inr decrypts
  constructor
  · intro safe s issues
    have salt : Salt := ⟨List.replicate 12 0, rfl⟩
    have issued := givenNext.configured.issued_of_issues separateNext issues salt []
    have decrypted := (safe _ _ issued default).1
    refine Classical.byContradiction fun unknown => ?_
    have refused := givenCur.configured.refused (ticketOf sha256 s salt []) default ?_
    · rw [refused] at decrypted
      cases decrypted
    · intro s' decrypts named
      rw [ticketOf_name] at named
      exact unknown (separate (.inl decrypts) (.inr (.inr (.inl issues.1))) named ▸ decrypts)
  · intro known ticket contexts issued
    obtain ⟨s, salt, iv, issues, rfl, rfl⟩ := givenNext.configured.issued issued
    exact givenCur.configured.decrypted separateCur (known s issues) salt iv

theorem mixed_fleet_iff_new :
    ∃ behind ahead, Given padded ⟨[], ["aa"], ["bb"]⟩ behind ∧ Given padded ⟨["aa"], ["bb"], []⟩ ahead ∧
      (ringOf ⟨["aa"], ["bb"], []⟩).Issues seedB ∧
      ∀ ticket contexts, Issued padded ahead ticket contexts → Decrypted padded behind ticket contexts := by
  refine ⟨_, _, given_new _, given_new _, by decide, (mixed_fleet_iff padded _ _ _ _ (given_new _) (given_new _) ?_).mpr ?_⟩
  · refine padded_separate fun s decrypts => ?_
    exact decrypts.elim (decrypts_listed (by decide) s) (decrypts_listed (by decide) s)
  · intro s issues
    have isB : s ∈ [seedB] := issues.1
    simp only [List.mem_singleton] at isB
    subst isB
    decide

/-- A rotation that adds a current seed which the servers have not seen before is valid. -/
theorem valid_rotation_unknown_current_seed :
    (⟨[], ["aa"], ["bb"]⟩ : TLSTicketKeySeeds).isValidRotation ⟨["aa"], ["bb", "cc"], []⟩ = true ∧
      ∃ behind ahead ticket contexts, Given padded ⟨[], ["aa"], ["bb"]⟩ behind ∧
        Given padded ⟨["aa"], ["bb", "cc"], []⟩ ahead ∧ Issued padded ahead ticket contexts ∧
        ∀ random, (behind.processTicket padded ticket random false).result = 0 := by
  have separate : Separate padded ⟨["aa"], ["bb", "cc"], []⟩ := padded_separate (decrypts_listed (by decide))
  have issued := (given_new ⟨["aa"], ["bb", "cc"], []⟩).configured.issued_of_issues (s := seedC) separate (by decide)
    noSalt []
  refine ⟨by decide, _, _, _, _, given_new _, given_new _, issued, fun random => ?_⟩
  apply (given_new ⟨[], ["aa"], ["bb"]⟩).configured.refused _ random
  intro s decrypts
  have other : ∀ s ∈ [seedA, seedB], nameOf padded s ≠ nameOf padded seedC := by decide
  rw [ticketOf_name]
  exact other s (decrypts_listed (by decide) s decrypts)

end Wangle.Proof.Ssl
