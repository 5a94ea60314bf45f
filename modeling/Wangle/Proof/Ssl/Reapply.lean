import Wangle.Proof.Ssl.Rotation

/-!
# Giving a manager its own seeds again

The manager gives its seeds back in lower case, and compares them with the next ones as texts.
-/

namespace Wangle.Proof.Ssl
open Wangle.Ssl Wangle.Numeral TLSTicketKeyManager

def reencoded (seeds : TLSTicketKeySeeds) : TLSTicketKeySeeds where
  oldSeeds := (decoded seeds.oldSeeds).map hexlify
  currentSeeds := (decoded seeds.currentSeeds).map hexlify
  newSeeds := (decoded seeds.newSeeds).map hexlify

/-- The other list has the lower-case text of every seed of the list, and is long enough. -/
def Respelled (texts others : List String) : Prop :=
  (decoded texts).length ≤ others.length ∧ ∀ s ∈ decoded texts, hexlify s ∈ others

def KeepsSpelling (seeds : TLSTicketKeySeeds) : Prop :=
  Respelled seeds.oldSeeds seeds.oldSeeds ∧ Respelled seeds.currentSeeds seeds.currentSeeds ∧
    Respelled seeds.newSeeds seeds.newSeeds

def MovesOn (seeds : TLSTicketKeySeeds) : Prop :=
  Respelled seeds.newSeeds seeds.currentSeeds ∧ Respelled seeds.currentSeeds seeds.oldSeeds

def SameKeys (m m' : TLSTicketKeyManager) : Prop :=
  (∀ name, m'.ticketKeys.lookup name = m.ticketKeys.lookup name) ∧ ∀ key, key ∈ m'.activeKeys ↔ key ∈ m.activeKeys

variable {sha256 : Bytes → Digest} {seeds : TLSTicketKeySeeds} {m m' : TLSTicketKeyManager}

theorem decoded_map_hexlify (l : List Bytes) : decoded (l.map hexlify) = l := by
  simp [decoded, List.filterMap_map, unhexlify_hexlify]

theorem Configured.getTLSTicketKeySeeds_eq (configured : Configured sha256 seeds m) :
    m.getTLSTicketKeySeeds = reencoded seeds := by
  simp [getTLSTicketKeySeeds, reencoded, seedsOf, configured.seeds, allSeeds, seedList, List.filter_map, seedOf,
    Function.comp_def]

theorem allSeeds_reencoded (seeds : TLSTicketKeySeeds) : allSeeds sha256 (reencoded seeds) = allSeeds sha256 seeds := by
  simp [allSeeds, seedList, reencoded, decoded_map_hexlify]

theorem Configured.sameKeys {seeds' : TLSTicketKeySeeds} (configured : Configured sha256 seeds m)
    (configured' : Configured sha256 seeds' m') (same : allSeeds sha256 seeds' = allSeeds sha256 seeds) :
    SameKeys m m' := by
  have lookups (name : Bytes) : m'.ticketKeys.lookup name = m.ticketKeys.lookup name := by
    rw [configured'.keys, configured.keys, configured'.seeds, configured.seeds, same]
  refine ⟨lookups, fun key => ?_⟩
  rw [configured'.active, configured.active, lookups]

theorem areSeedsSubset_reencoded (texts others : List String) :
    TLSTicketKeySeeds.areSeedsSubset ((decoded texts).map hexlify) others = true ↔ Respelled texts others := by
  rw [TLSTicketKeySeeds.areSeedsSubset, List.length_map]
  split
  · rename_i longer
    exact iff_of_false Bool.false_ne_true fun respelled => absurd respelled.1 (Nat.not_le_of_lt longer)
  · rename_i fits
    simp [Respelled, Nat.le_of_not_lt fits]

theorem respelled_nil {texts others : List String} (none : (decoded texts).map hexlify = []) :
    Respelled texts others := by
  rw [List.map_eq_nil_iff] at none
  simp [Respelled, none]

theorem isValidRotation_reencoded (seeds : TLSTicketKeySeeds) :
    (reencoded seeds).isValidRotation seeds = true ↔ KeepsSpelling seeds ∨ MovesOn seeds := by
  simp only [TLSTicketKeySeeds.isValidRotation, Bool.or_eq_true, Bool.and_eq_true]
  constructor
  · rintro ((⟨isEmpty, -⟩ | ⟨toCurrent, toOld⟩) | ⟨⟨old, current⟩, new⟩)
    · simp only [TLSTicketKeySeeds.isEmpty, Bool.and_eq_true, List.isEmpty_iff] at isEmpty
      exact .inl ⟨respelled_nil isEmpty.1.1, respelled_nil isEmpty.1.2, respelled_nil isEmpty.2⟩
    · exact .inr ⟨(areSeedsSubset_reencoded _ _).mp toCurrent, (areSeedsSubset_reencoded _ _).mp toOld⟩
    · exact .inl ⟨(areSeedsSubset_reencoded _ _).mp old, (areSeedsSubset_reencoded _ _).mp current,
        (areSeedsSubset_reencoded _ _).mp new⟩
  · rintro (⟨old, current, new⟩ | ⟨toCurrent, toOld⟩)
    · exact .inr ⟨⟨(areSeedsSubset_reencoded _ _).mpr old, (areSeedsSubset_reencoded _ _).mpr current⟩,
        (areSeedsSubset_reencoded _ _).mpr new⟩
    · exact .inl (.inr ⟨(areSeedsSubset_reencoded _ _).mpr toCurrent, (areSeedsSubset_reencoded _ _).mpr toOld⟩)

theorem recordsValid_iff {next : TLSTicketKeySeeds} (told : m.stats.isSome = true) :
    RecordsValid sha256 m next ↔ m.getTLSTicketKeySeeds.isValidRotation next = true := by
  refine ⟨RecordsValid.isValidRotation, fun valid => ?_⟩
  obtain ⟨calls, isCalls⟩ := Option.isSome_iff_exists.mp told
  refine ⟨calls, isCalls, ?_⟩
  rw [setTLSTicketKeySeeds_stats, recordTlsTicketRotation, valid, record, isCalls]
  rfl

theorem setTLSTicketKeySeeds_stats_isSome (next : TLSTicketKeySeeds) (m : TLSTicketKeyManager) :
    (setTLSTicketKeySeeds sha256 next m).2.stats.isSome = m.stats.isSome := by
  rw [setTLSTicketKeySeeds_stats, recordTlsTicketRotation, record, Option.isSome_map]

/-- A manager that is given its own seeds keeps its keys. Seeds that are given twice are recorded as a valid rotation
exactly if they are listed in lower case. -/
theorem seeds_given_again (sha256 : Bytes → Digest) (stats : Option (List SSLStatsCall)) (ops : List Op)
    (m : TLSTicketKeyManager) (done : run sha256 { stats } ops = .ok m) :
    SameKeys m (setTLSTicketKeySeeds sha256 m.getTLSTicketKeySeeds m).2 ∧
      ∀ seeds, m.stats.isSome = true →
        (RecordsValid sha256 (setTLSTicketKeySeeds sha256 seeds m).2 seeds ↔ KeepsSpelling seeds ∨ MovesOn seeds) := by
  obtain ⟨given, configured⟩ := run_configured done
  constructor
  · rw [configured.getTLSTicketKeySeeds_eq]
    exact configured.sameKeys (setTLSTicketKeySeeds_configured _ m) (allSeeds_reencoded given)
  · intro seeds told
    rw [recordsValid_iff (by rwa [setTLSTicketKeySeeds_stats_isSome]),
      (setTLSTicketKeySeeds_configured seeds m).getTLSTicketKeySeeds_eq, isValidRotation_reencoded]

theorem seeds_given_again_lower_case :
    ∃ m, run padded { stats := some [] } [.setTLSTicketKeySeeds ⟨["aa"], ["bb"], ["CC", "cc"]⟩] = .ok m ∧
      SameKeys m (setTLSTicketKeySeeds padded m.getTLSTicketKeySeeds m).2 ∧
      RecordsValid padded (setTLSTicketKeySeeds padded ⟨["aa"], ["bb"], ["CC", "cc"]⟩ m).2 ⟨["aa"], ["bb"], ["CC", "cc"]⟩ := by
  obtain ⟨same, valid⟩ := seeds_given_again padded (some [])
    [.setTLSTicketKeySeeds ⟨["aa"], ["bb"], ["CC", "cc"]⟩] _ rfl
  refine ⟨_, rfl, same, (valid ⟨["aa"], ["bb"], ["CC", "cc"]⟩ rfl).mpr (.inl ?_)⟩
  exact ⟨⟨by decide, by decide⟩, ⟨by decide, by decide⟩, by decide, by decide⟩

theorem upper_case_seeds_not_valid :
    ∃ m, run padded { stats := some [] } [.setTLSTicketKeySeeds ⟨[], ["AA"], []⟩] = .ok m ∧
      ¬ RecordsValid padded m ⟨[], ["AA"], []⟩ := by
  refine ⟨_, rfl, fun valid => ?_⟩
  have never := valid.isValidRotation
  revert never
  decide

end Wangle.Proof.Ssl
