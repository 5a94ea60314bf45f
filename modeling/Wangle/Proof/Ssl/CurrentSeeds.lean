import Wangle.Proof.Ssl.Rotation

/-!
# The roles of the seeds
-/

namespace Wangle.Proof.Ssl
open Wangle.Ssl Wangle.Numeral Wangle.Spec TLSTicketKeyManager

variable (sha256 : Bytes → Digest)

/-- The seeds have their roles, where `Decrypts m ticket contexts` is what it means that a manager decrypts a ticket. -/
structure Honours (Decrypts : TLSTicketKeyManager → Ticket → Contexts → Prop) (seeds : TLSTicketKeySeeds)
    (m : TLSTicketKeyManager) : Prop where
  decrypts : ∀ s, (ringOf seeds).Decrypts s → ∀ salt iv,
    Decrypts (setTLSTicketKeySeeds sha256 seeds m).2 (ticketOf sha256 s salt iv) (contextsOf sha256 s salt iv)
  encrypts : ∀ key, (∃ rand32, (setTLSTicketKeySeeds sha256 seeds m).2.findEncryptionKey rand32 = some key) ↔
    ∃ s ∈ decoded seeds.currentSeeds, key = keyOf sha256 (seedOf sha256 .current s)
  returns : (setTLSTicketKeySeeds sha256 seeds m).1 = true ↔ ∃ s, s ∈ decoded seeds.currentSeeds

variable {sha256} {seeds : TLSTicketKeySeeds} {m : TLSTicketKeyManager}

def OneRole (seeds : TLSTicketKeySeeds) : Prop := ∀ s ∈ decoded seeds.currentSeeds, s ∉ decoded seeds.oldSeeds

instance (seeds : TLSTicketKeySeeds) : Decidable (OneRole seeds) :=
  inferInstanceAs (Decidable (∀ s ∈ decoded _, s ∉ decoded _))

theorem setTLSTicketKeySeeds_fst (seeds : TLSTicketKeySeeds) (m : TLSTicketKeyManager) :
    (setTLSTicketKeySeeds sha256 seeds m).1 = (setTLSTicketKeySeeds sha256 seeds m).2.ticketKeyCb := by
  simp only [setTLSTicketKeySeeds]
  split <;> rfl

theorem OneRole.issues_iff (oneRole : OneRole seeds) {s : Bytes} :
    (ringOf seeds).Issues s ↔ s ∈ decoded seeds.currentSeeds :=
  ⟨And.left, fun current => ⟨current, oneRole s current⟩⟩

theorem Honours.oneRole {Decrypts : TLSTicketKeyManager → Ticket → Contexts → Prop} (separate : Separate sha256 seeds)
    (honours : Honours sha256 Decrypts seeds m) : OneRole seeds := by
  intro s current old
  obtain ⟨rand32, found⟩ := (honours.encrypts (keyOf sha256 (seedOf sha256 .current s))).mpr ⟨s, current, rfl⟩
  have configured : Configured sha256 seeds _ := setTLSTicketKeySeeds_configured seeds m
  obtain ⟨s', issues, same⟩ := configured.issues (findEncryptionKey_mem found)
  have name : nameOf sha256 s = nameOf sha256 s' := congrArg TLSTicketKeySource.keyName same
  rw [← separate (.inl old) (.inr (.inl issues.1)) name] at issues
  exact issues.2 old

theorem OneRole.honours (separate : Separate sha256 seeds) (oneRole : OneRole seeds) (m : TLSTicketKeyManager) :
    Honours sha256 (Decrypted sha256) seeds m := by
  have configured : Configured sha256 seeds _ := setTLSTicketKeySeeds_configured seeds m
  refine ⟨fun s decrypts salt iv => configured.decrypted separate decrypts salt iv, fun key => ?_, ?_⟩
  · constructor
    · rintro ⟨rand32, found⟩
      obtain ⟨s, issues, rfl⟩ := configured.issues (findEncryptionKey_mem found)
      exact ⟨s, issues.1, rfl⟩
    · rintro ⟨s, current, rfl⟩
      exact exists_findEncryptionKey (configured.active_of_issues separate (oneRole.issues_iff.mpr current))
  · rw [setTLSTicketKeySeeds_fst, configured.ticketKeyCb_iff separate]
    exact exists_congr fun s => oneRole.issues_iff

/-- The second part is for tickets that reach the manager through the SSL library, which asks it only if it can issue
tickets. -/
theorem honours_iff (sha256 : Bytes → Digest) (seeds : TLSTicketKeySeeds) (m : TLSTicketKeyManager)
    (separate : Separate sha256 seeds) :
    (Honours sha256 (Decrypted sha256) seeds m ↔ OneRole seeds) ∧
      (Honours sha256 (Accepted sha256) seeds m ↔
        OneRole seeds ∧ ((∃ s, s ∈ decoded seeds.currentSeeds) ∨ ∀ s, ¬ (ringOf seeds).Decrypts s)) := by
  refine ⟨⟨Honours.oneRole separate, fun oneRole => oneRole.honours separate m⟩, ?_⟩
  have configured : Configured sha256 seeds _ := setTLSTicketKeySeeds_configured seeds m
  constructor
  · intro honours
    have oneRole := honours.oneRole separate
    refine ⟨oneRole, or_iff_not_imp_right.mpr fun some => ?_⟩
    push Not at some
    obtain ⟨s, decrypts⟩ := some
    obtain ⟨s', issues⟩ := (configured.accepted_iff separate decrypts noSalt []).mp (honours.decrypts s decrypts noSalt [])
    exact ⟨s', issues.1⟩
  · rintro ⟨oneRole, serves⟩
    obtain ⟨-, encrypts, returns⟩ := oneRole.honours separate m
    refine ⟨fun s decrypts salt iv => (configured.accepted_iff separate decrypts salt iv).mpr ?_, encrypts, returns⟩
    rcases serves with ⟨current, listed⟩ | none
    · exact ⟨current, oneRole.issues_iff.mpr listed⟩
    · exact absurd decrypts (none s)

section examples

def distinctSeeds : TLSTicketKeySeeds := ⟨["aa"], ["bb", "zz"], ["cc", "bb"]⟩

def oldSeedAgain : TLSTicketKeySeeds := ⟨["aa"], ["aa"], []⟩

theorem distinct_seeds_honoured :
    Separate padded distinctSeeds ∧ Honours padded (Accepted padded) distinctSeeds { stats := none } := by
  have separate : Separate padded distinctSeeds := padded_separate (decrypts_listed (by decide))
  exact ⟨separate, (honours_iff padded distinctSeeds _ separate).2.mpr ⟨by decide, .inl ⟨[0xbb], by decide⟩⟩⟩

theorem old_seed_again_not_honoured :
    Separate padded oldSeedAgain ∧ ¬ Honours padded (Decrypted padded) oldSeedAgain { stats := none } := by
  have separate : Separate padded oldSeedAgain := padded_separate (decrypts_listed (by decide))
  exact ⟨separate, fun honours => absurd (honours.oneRole separate) (by decide)⟩

end examples

end Wangle.Proof.Ssl
