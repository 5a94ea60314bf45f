import Wangle.Spec.SeedRing
import Wangle.Ssl.TLSTicketKeyManager
import Mathlib.Data.Set.Function

/-!
# The keys of a manager and the seeds that it was given
-/

namespace Wangle.Proof.Ssl
open Wangle.Ssl Wangle.Numeral Wangle.Keyed Wangle.Spec TLSTicketKeyManager

variable (sha256 : Bytes → Digest)

def seedOf (type : TLSTicketSeedType) (s : Bytes) : TLSTicketSeed where
  seed := s
  type := type
  seedName := sha256 s

def keyOf (seed : TLSTicketSeed) : TLSTicketKeySource := newKey sha256 seed 1 none

def nameOf (s : Bytes) : Bytes := makeKeyName sha256 (seedOf sha256 .current s) 1

def decoded (texts : List String) : List Bytes := texts.filterMap unhexlify

def ringOf (seeds : TLSTicketKeySeeds) : SeedRing Bytes where
  old := { s | s ∈ decoded seeds.oldSeeds }
  current := { s | s ∈ decoded seeds.currentSeeds }
  new := { s | s ∈ decoded seeds.newSeeds }

def Separate (seeds : TLSTicketKeySeeds) : Prop :=
  Set.InjOn (nameOf sha256) { s | (ringOf seeds).Decrypts s }

instance (seeds : TLSTicketKeySeeds) : DecidablePred (ringOf seeds).Decrypts :=
  fun s => inferInstanceAs (Decidable (s ∈ decoded _ ∨ s ∈ decoded _ ∨ s ∈ decoded _))

instance (seeds : TLSTicketKeySeeds) : DecidablePred (ringOf seeds).Issues :=
  fun s => inferInstanceAs (Decidable (s ∈ decoded _ ∧ ¬ s ∈ decoded _))

def seedList (type : TLSTicketSeedType) (texts : List String) : List TLSTicketSeed :=
  (decoded texts).map (seedOf sha256 type)

def allSeeds (seeds : TLSTicketKeySeeds) : List TLSTicketSeed :=
  seedList sha256 .old seeds.oldSeeds ++ seedList sha256 .current seeds.currentSeeds ++
    seedList sha256 .new seeds.newSeeds

def addSeed (m : TLSTicketKeyManager) (seed : TLSTicketSeed) : TLSTicketKeyManager :=
  insertNewKey sha256 seed 1 none { m with ticketSeeds := m.ticketSeeds ++ [seed] }

def keyFor (m : TLSTicketKeyManager) (seed : TLSTicketSeed) : TLSTicketKeySource :=
  (m.ticketKeys.lookup (keyOf sha256 seed).keyName).getD (keyOf sha256 seed)

def firstNamed (name : Bytes) (l : List TLSTicketSeed) : Option TLSTicketSeed :=
  l.find? fun seed => decide ((keyOf sha256 seed).keyName = name)

structure Keyed (m : TLSTicketKeyManager) : Prop where
  keys : ∀ name, m.ticketKeys.lookup name = (firstNamed sha256 name m.ticketSeeds).map (keyOf sha256)
  active : ∀ key, key ∈ m.activeKeys ↔ key.type = .current ∧ m.ticketKeys.lookup key.keyName = some key

structure Configured (seeds : TLSTicketKeySeeds) (m : TLSTicketKeyManager) : Prop extends Keyed sha256 m where
  seeds : m.ticketSeeds = allSeeds sha256 seeds
  ticketKeyCb : m.ticketKeyCb = !m.activeKeys.isEmpty

variable {sha256} {seeds : TLSTicketKeySeeds} {m : TLSTicketKeyManager}

theorem insertSeeds_eq (type : TLSTicketSeedType) (texts : List String) (m : TLSTicketKeyManager) :
    insertSeeds sha256 type texts m = (seedList sha256 type texts).foldl (addSeed sha256) m := by
  induction texts generalizing m with
  | nil => rfl
  | cons text texts ih =>
      cases decodes : unhexlify text with
      | none =>
          simp only [insertSeeds, insertSeed, decodes, ih]
          simp [seedList, decoded, decodes]
      | some s =>
          simp only [insertSeeds, insertSeed, decodes, ih]
          simp [seedList, decoded, decodes, addSeed, seedOf]

theorem firstNamed_some {name : Bytes} {l : List TLSTicketSeed} {seed : TLSTicketSeed}
    (first : firstNamed sha256 name l = some seed) : seed ∈ l ∧ (keyOf sha256 seed).keyName = name :=
  ⟨List.mem_of_find?_eq_some first, by simpa using List.find?_some first⟩

theorem firstNamed_none {name : Bytes} {l : List TLSTicketSeed} :
    firstNamed sha256 name l = none ↔ ∀ seed ∈ l, (keyOf sha256 seed).keyName ≠ name := by
  simp [firstNamed]

theorem firstNamed_append (name : Bytes) (l l' : List TLSTicketSeed) :
    firstNamed sha256 name (l ++ l') = (firstNamed sha256 name l).or (firstNamed sha256 name l') :=
  List.find?_append

theorem firstNamed_singleton (name : Bytes) (seed : TLSTicketSeed) :
    firstNamed sha256 name [seed] = if (keyOf sha256 seed).keyName = name then some seed else none := by
  by_cases same : (keyOf sha256 seed).keyName = name <;> simp [firstNamed, same]

theorem Keyed.keyName_eq (keyed : Keyed sha256 m) {name : Bytes} {key : TLSTicketKeySource}
    (found : m.ticketKeys.lookup name = some key) : key.keyName = name := by
  rw [keyed.keys, Option.map_eq_some_iff] at found
  obtain ⟨seed, first, rfl⟩ := found
  exact (firstNamed_some first).2

theorem Keyed.keyFor_name (keyed : Keyed sha256 m) (seed : TLSTicketSeed) :
    (keyFor sha256 m seed).keyName = (keyOf sha256 seed).keyName := by
  unfold keyFor
  cases found : m.ticketKeys.lookup (keyOf sha256 seed).keyName with
  | none => rfl
  | some key => exact keyed.keyName_eq found

theorem addSeed_lookup_self (m : TLSTicketKeyManager) (seed : TLSTicketSeed) :
    (addSeed sha256 m seed).ticketKeys.lookup (keyOf sha256 seed).keyName = some (keyFor sha256 m seed) :=
  lookup_emplace_self ..

theorem addSeed_lookup_of_ne {name : Bytes} (seed : TLSTicketSeed) (other : name ≠ (keyOf sha256 seed).keyName) :
    (addSeed sha256 m seed).ticketKeys.lookup name = m.ticketKeys.lookup name :=
  lookup_emplace_of_ne other ..

theorem mem_addSeed_activeKeys (m : TLSTicketKeyManager) (seed : TLSTicketSeed) (key : TLSTicketKeySource) :
    key ∈ (addSeed sha256 m seed).activeKeys ↔
      key ∈ m.activeKeys ∨ key.type = .current ∧ key = keyFor sha256 m seed := by
  show key ∈ (if (keyFor sha256 m seed).type = .current then m.activeKeys ++ [keyFor sha256 m seed]
    else m.activeKeys) ↔ _
  split <;> grind

theorem Keyed.add (keyed : Keyed sha256 m) (seed : TLSTicketSeed) : Keyed sha256 (addSeed sha256 m seed) where
  keys := by
    intro name
    show _ = (firstNamed sha256 name (m.ticketSeeds ++ [seed])).map _
    rw [firstNamed_append, firstNamed_singleton, Option.map_or, ← keyed.keys]
    by_cases same : name = (keyOf sha256 seed).keyName
    · subst same
      rw [addSeed_lookup_self, keyFor]
      cases m.ticketKeys.lookup (keyOf sha256 seed).keyName <;> simp
    · rw [addSeed_lookup_of_ne seed same]
      simp [Ne.symm same]
  active := by
    intro key
    rw [mem_addSeed_activeKeys, keyed.active]
    by_cases same : key.keyName = (keyOf sha256 seed).keyName
    · rw [same, addSeed_lookup_self, keyFor]
      cases m.ticketKeys.lookup (keyOf sha256 seed).keyName <;> grind
    · have other : key ≠ keyFor sha256 m seed := fun equal => same (equal ▸ keyed.keyFor_name seed)
      rw [addSeed_lookup_of_ne seed same]
      simp [other]

theorem Keyed.addAll (keyed : Keyed sha256 m) (l : List TLSTicketSeed) :
    Keyed sha256 (l.foldl (addSeed sha256) m) ∧
      (l.foldl (addSeed sha256) m).ticketSeeds = m.ticketSeeds ++ l := by
  induction l generalizing m with
  | nil => exact ⟨keyed, by simp⟩
  | cons seed l ih =>
      obtain ⟨kept, seeds⟩ := ih (keyed.add seed)
      exact ⟨kept, seeds.trans (List.append_assoc ..)⟩

def cleared (m : TLSTicketKeyManager) : TLSTicketKeyManager :=
  { m with activeKeys := [], ticketKeys := ∅, ticketSeeds := [] }

theorem cleared_keyed (m : TLSTicketKeyManager) : Keyed sha256 (cleared m) :=
  ⟨fun name => rfl, fun key => by simp [cleared]⟩

theorem Keyed.activeKeys_isEmpty (keyed : Keyed sha256 m) (noKeys : m.ticketKeys.entries.isEmpty) :
    m.activeKeys.isEmpty := by
  rw [List.isEmpty_iff, List.eq_nil_iff_forall_not_mem]
  intro key member
  have found := ((keyed.active key).mp member).2
  rw [AList.lookup, List.isEmpty_iff.mp noKeys] at found
  cases found

theorem setTLSTicketKeySeeds_configured (seeds : TLSTicketKeySeeds) (m : TLSTicketKeyManager) :
    Configured sha256 seeds (setTLSTicketKeySeeds sha256 seeds m).2 := by
  have empty : Keyed sha256 (cleared (m.recordTlsTicketRotation seeds)) := cleared_keyed _
  obtain ⟨keyed, list⟩ := empty.addAll (allSeeds sha256 seeds)
  have inserted : insertSeeds sha256 .new seeds.newSeeds (insertSeeds sha256 .current seeds.currentSeeds
      (insertSeeds sha256 .old seeds.oldSeeds (cleared (m.recordTlsTicketRotation seeds)))) =
      (allSeeds sha256 seeds).foldl (addSeed sha256) (cleared (m.recordTlsTicketRotation seeds)) := by
    simp only [insertSeeds_eq, allSeeds, List.foldl_append]
  rw [← inserted] at keyed list
  unfold setTLSTicketKeySeeds
  show Configured sha256 seeds (if _ then _ else _ : Bool × TLSTicketKeyManager).2
  split
  · rename_i none
    refine ⟨⟨keyed.keys, keyed.active⟩, list, ?_⟩
    rcases Bool.or_eq_true_iff.mp none with noKeys | noActive
    · exact (congrArg not (keyed.activeKeys_isEmpty noKeys)).symm
    · exact (congrArg not noActive).symm
  · rename_i some
    refine ⟨⟨keyed.keys, keyed.active⟩, list, ?_⟩
    rw [Bool.or_eq_true_iff, not_or, Bool.not_eq_true, Bool.not_eq_true] at some
    exact (congrArg not some.2).symm

theorem Configured.record (configured : Configured sha256 seeds m) (call : SSLStatsCall) :
    Configured sha256 seeds (m.record call) :=
  ⟨⟨configured.keys, configured.active⟩, configured.seeds, configured.ticketKeyCb⟩

theorem processTicket_configured (configured : Configured sha256 seeds m) (ticket : Ticket) (random : Random)
    (encrypt : Bool) : Configured sha256 seeds (m.processTicket sha256 ticket random encrypt).manager := by
  unfold processTicket
  split
  · split
    · exact configured
    · exact configured.record _
  · split
    · exact configured.record _
    · exact configured.record _

theorem new_configured (stats : Option (List SSLStatsCall)) : Configured sha256 ⟨[], [], []⟩ { stats } :=
  ⟨⟨fun name => rfl, fun key => by simp⟩, rfl, rfl⟩

theorem run_configured {stats : Option (List SSLStatsCall)} {ops : List Op} (done : run sha256 { stats } ops = .ok m) :
    ∃ seeds, Configured sha256 seeds m := by
  refine Transition.run_invariant_all (I := fun m => ∃ seeds, Configured sha256 seeds m) ?_ ?_ done
  · rintro m op m' ⟨seeds, configured⟩ taken
    cases op with
    | setTLSTicketKeySeeds next =>
        cases taken
        exact ⟨next, setTLSTicketKeySeeds_configured next m⟩
    | processTicket ticket random encrypt =>
        cases taken
        exact ⟨seeds, processTicket_configured configured ticket random encrypt⟩
  · exact ⟨_, new_configured stats⟩

section seeds
variable {s : Bytes}

theorem mem_seedList {type : TLSTicketSeedType} {texts : List String} {seed : TLSTicketSeed} :
    seed ∈ seedList sha256 type texts ↔ ∃ s ∈ decoded texts, seed = seedOf sha256 type s := by
  simp [seedList, eq_comm]

theorem exists_of_mem_allSeeds {seed : TLSTicketSeed} (member : seed ∈ allSeeds sha256 seeds) :
    ∃ s, (ringOf seeds).Decrypts s ∧ seed = seedOf sha256 seed.type s := by
  simp only [allSeeds, List.mem_append, mem_seedList] at member
  rcases member with (⟨s, listed, rfl⟩ | ⟨s, listed, rfl⟩) | ⟨s, listed, rfl⟩
  · exact ⟨s, .inl listed, rfl⟩
  · exact ⟨s, .inr (.inl listed), rfl⟩
  · exact ⟨s, .inr (.inr listed), rfl⟩

theorem mem_allSeeds_of_decrypts (decrypts : (ringOf seeds).Decrypts s) :
    ∃ type, seedOf sha256 type s ∈ allSeeds sha256 seeds := by
  simp only [allSeeds, List.mem_append, mem_seedList]
  rcases decrypts with listed | listed | listed
  · exact ⟨.old, .inl (.inl ⟨s, listed, rfl⟩)⟩
  · exact ⟨.current, .inl (.inr ⟨s, listed, rfl⟩)⟩
  · exact ⟨.new, .inr ⟨s, listed, rfl⟩⟩

theorem Configured.found (configured : Configured sha256 seeds m) {name : Bytes} {key : TLSTicketKeySource}
    (found : m.ticketKeys.lookup name = some key) :
    ∃ s, (ringOf seeds).Decrypts s ∧ nameOf sha256 s = name ∧ key = keyOf sha256 (seedOf sha256 key.type s) := by
  rw [configured.keys, Option.map_eq_some_iff, configured.seeds] at found
  obtain ⟨seed, first, rfl⟩ := found
  obtain ⟨member, named⟩ := firstNamed_some first
  obtain ⟨s, decrypts, isSeed⟩ := exists_of_mem_allSeeds member
  refine ⟨s, decrypts, ?_, congrArg (keyOf sha256) isSeed⟩
  rw [isSeed] at named
  exact named

theorem Configured.lookup (configured : Configured sha256 seeds m) (separate : Separate sha256 seeds)
    (decrypts : (ringOf seeds).Decrypts s) :
    ∃ type, m.ticketKeys.lookup (nameOf sha256 s) = some (keyOf sha256 (seedOf sha256 type s)) := by
  obtain ⟨type, member⟩ : ∃ type, seedOf sha256 type s ∈ allSeeds sha256 seeds := mem_allSeeds_of_decrypts decrypts
  cases found : m.ticketKeys.lookup (nameOf sha256 s) with
  | none =>
      rw [configured.keys, Option.map_eq_none_iff, configured.seeds, firstNamed_none] at found
      exact absurd rfl (found (seedOf sha256 type s) member)
  | some key =>
      obtain ⟨s', decrypts', named, isKey⟩ := configured.found found
      rw [separate decrypts' decrypts named] at isKey
      exact ⟨key.type, congrArg some isKey⟩

theorem firstNamed_current {name : Bytes} {s : Bytes} :
    firstNamed sha256 name (allSeeds sha256 seeds) = some (seedOf sha256 .current s) ↔
      (∀ old ∈ decoded seeds.oldSeeds, nameOf sha256 old ≠ name) ∧
        firstNamed sha256 name (seedList sha256 .current seeds.currentSeeds) = some (seedOf sha256 .current s) := by
  rw [allSeeds, firstNamed_append, firstNamed_append]
  cases first : firstNamed sha256 name (seedList sha256 .old seeds.oldSeeds) with
  | some seed =>
      obtain ⟨member, named⟩ := firstNamed_some first
      obtain ⟨old, listed, rfl⟩ := mem_seedList.mp member
      have other : seedOf sha256 .old old ≠ seedOf sha256 .current s := by simp [seedOf]
      have taken : ¬ ∀ old ∈ decoded seeds.oldSeeds, nameOf sha256 old ≠ name := fun free => free old listed named
      simp [other, taken]
  | none =>
      rw [firstNamed_none] at first
      have free : ∀ old ∈ decoded seeds.oldSeeds, nameOf sha256 old ≠ name :=
        fun old listed => first (seedOf sha256 .old old) (mem_seedList.mpr ⟨old, listed, rfl⟩)
      cases second : firstNamed sha256 name (seedList sha256 .current seeds.currentSeeds) with
      | some seed => simpa using fun _ => free
      | none =>
          have other : firstNamed sha256 name (seedList sha256 .new seeds.newSeeds) ≠ some (seedOf sha256 .current s) := by
            intro third
            obtain ⟨new, -, same⟩ := mem_seedList.mp (firstNamed_some third).1
            simp [seedOf] at same
          simp [other]

theorem Configured.issues (configured : Configured sha256 seeds m) {key : TLSTicketKeySource}
    (active : key ∈ m.activeKeys) : ∃ s, (ringOf seeds).Issues s ∧ key = keyOf sha256 (seedOf sha256 .current s) := by
  obtain ⟨current, found⟩ := (configured.active key).mp active
  rw [configured.keys, configured.seeds, Option.map_eq_some_iff] at found
  obtain ⟨seed, first, rfl⟩ := found
  obtain ⟨s, -, isSeed⟩ := exists_of_mem_allSeeds (firstNamed_some first).1
  change seed.type = .current at current
  rw [current] at isSeed
  subst isSeed
  obtain ⟨free, second⟩ := firstNamed_current.mp first
  obtain ⟨s', listed, same⟩ := mem_seedList.mp (firstNamed_some second).1
  cases same
  exact ⟨s, ⟨listed, fun old => free s old rfl⟩, rfl⟩

theorem Configured.active_of_issues (configured : Configured sha256 seeds m) (separate : Separate sha256 seeds)
    (issues : (ringOf seeds).Issues s) : keyOf sha256 (seedOf sha256 .current s) ∈ m.activeKeys := by
  have decrypts : (ringOf seeds).Decrypts s := .inr (.inl issues.1)
  have first : firstNamed sha256 (nameOf sha256 s) (allSeeds sha256 seeds) = some (seedOf sha256 .current s) := by
    rw [firstNamed_current]
    constructor
    · intro old isOld named
      exact issues.2 (separate (.inl isOld) decrypts named ▸ isOld)
    · cases found : firstNamed sha256 (nameOf sha256 s) (seedList sha256 .current seeds.currentSeeds) with
      | none =>
          rw [firstNamed_none] at found
          exact absurd rfl (found _ (mem_seedList.mpr ⟨s, issues.1, rfl⟩))
      | some seed =>
          obtain ⟨member, named⟩ := firstNamed_some found
          obtain ⟨s', listed, rfl⟩ := mem_seedList.mp member
          rw [separate (.inr (.inl listed)) decrypts named]
  rw [configured.active, configured.keys, configured.seeds]
  exact ⟨rfl, congrArg (Option.map (keyOf sha256)) first⟩

theorem Configured.ticketKeyCb_iff (configured : Configured sha256 seeds m) (separate : Separate sha256 seeds) :
    m.ticketKeyCb = true ↔ (ringOf seeds).Serves := by
  rw [configured.ticketKeyCb, Bool.not_eq_true', List.isEmpty_eq_false_iff_exists_mem]
  constructor
  · rintro ⟨key, active⟩
    exact (configured.issues active).imp fun s issues => issues.1
  · rintro ⟨s, issues⟩
    exact ⟨_, configured.active_of_issues separate issues⟩

end seeds

section tickets
variable {s : Bytes} {ticket : Ticket} {random : Random}

variable (sha256) in
def ticketOf (s : Bytes) (salt : Salt) (iv : Bytes) : Ticket where
  keyName := nameOf sha256 s ++ salt
  iv := iv

variable (sha256) in
def contextsOf (s : Bytes) (salt : Salt) (iv : Bytes) : Contexts :=
  contexts sha256 (keyOf sha256 (seedOf sha256 .current s)) salt iv

variable (sha256) in
def Decrypted (m : TLSTicketKeyManager) (ticket : Ticket) (contexts : Contexts) : Prop :=
  ∀ random, (m.processTicket sha256 ticket random false).result = 1 ∧
    (m.processTicket sha256 ticket random false).contexts = some contexts

variable (sha256) in
def Accepted (m : TLSTicketKeyManager) (ticket : Ticket) (contexts : Contexts) : Prop :=
  ∀ random, ∃ processed, m.callback sha256 ticket random false = some processed ∧
    processed.result = 1 ∧ processed.contexts = some contexts

variable (sha256) in
def Issued (m : TLSTicketKeyManager) (ticket : Ticket) (contexts : Contexts) : Prop :=
  ∃ buffers random processed, m.callback sha256 buffers random true = some processed ∧
    processed.result = 1 ∧ processed.ticket = ticket ∧ processed.contexts = some contexts

theorem nameOf_length (s : Bytes) : (nameOf sha256 s).length = kTLSTicketKeyNameLen := by
  rw [nameOf, makeKeyName, List.length_take, (sha256 _).2]
  rfl

theorem ticketOf_name (s : Bytes) (salt : Salt) (iv : Bytes) :
    (ticketOf sha256 s salt iv).keyName.take kTLSTicketKeyNameLen = nameOf sha256 s :=
  List.take_left' (nameOf_length s)

theorem ticketOf_salt (s : Bytes) (salt : Salt) (iv : Bytes) :
    ((ticketOf sha256 s salt iv).keyName.drop kTLSTicketKeyNameLen).take kTLSTicketKeySaltLen = salt := by
  show ((nameOf sha256 s ++ salt.1).drop kTLSTicketKeyNameLen).take kTLSTicketKeySaltLen = salt.1
  rw [List.drop_left' (nameOf_length s), List.take_of_length_le (Nat.le_of_eq salt.2)]

instance : Inhabited Random := ⟨0, ⟨List.replicate 12 0, rfl⟩, []⟩

theorem accepted_iff {contexts : Contexts} :
    Accepted sha256 m ticket contexts ↔ m.ticketKeyCb = true ∧ Decrypted sha256 m ticket contexts := by
  cases set : m.ticketKeyCb with
  | true => simp [Accepted, Decrypted, callback, set]
  | false =>
      constructor
      · intro accepted
        obtain ⟨processed, asked, -⟩ := accepted default
        simp [callback, set] at asked
      · exact fun both => by cases both.1

theorem findEncryptionKey_mem {rand32 : Nat} {key : TLSTicketKeySource}
    (found : m.findEncryptionKey rand32 = some key) : key ∈ m.activeKeys := by
  simp only [findEncryptionKey] at found
  split at found
  · exact List.mem_of_getElem? found
  · cases found

theorem exists_findEncryptionKey {key : TLSTicketKeySource} (active : key ∈ m.activeKeys) :
    ∃ rand32, m.findEncryptionKey rand32 = some key := by
  obtain ⟨i, bound, isKey⟩ := List.mem_iff_getElem.mp active
  refine ⟨i, ?_⟩
  have some : m.activeKeys.length > 0 := by omega
  simp only [findEncryptionKey, some, if_true, Nat.mod_eq_of_lt bound]
  split
  · obtain rfl : i = 0 := by omega
    rw [← isKey]
    exact List.getElem?_eq_getElem bound
  · rw [← isKey]
    exact List.getElem?_eq_getElem bound

theorem Configured.decrypted (configured : Configured sha256 seeds m) (separate : Separate sha256 seeds)
    (decrypts : (ringOf seeds).Decrypts s) (salt : Salt) (iv : Bytes) :
    Decrypted sha256 m (ticketOf sha256 s salt iv) (contextsOf sha256 s salt iv) := by
  intro random
  obtain ⟨type, found⟩ := configured.lookup separate decrypts
  have isKey : m.findDecryptionKey (ticketOf sha256 s salt iv).keyName = some (keyOf sha256 (seedOf sha256 type s)) := by
    rw [findDecryptionKey, ticketOf_name, found]
  simp only [processTicket, Bool.false_eq_true, if_false, isKey, ticketOf_salt]
  exact ⟨trivial, rfl⟩

theorem Configured.refused (configured : Configured sha256 seeds m) (ticket : Ticket) (random : Random)
    (unknown : ∀ s, (ringOf seeds).Decrypts s → nameOf sha256 s ≠ ticket.keyName.take kTLSTicketKeyNameLen) :
    (m.processTicket sha256 ticket random false).result = 0 := by
  have none : m.findDecryptionKey ticket.keyName = none := by
    cases found : m.findDecryptionKey ticket.keyName with
    | none => rfl
    | some key =>
        obtain ⟨s, decrypts, named, -⟩ := configured.found found
        exact absurd named (unknown s decrypts)
  simp [processTicket, none]

theorem Configured.encrypted (configured : Configured sha256 seeds m)
    (done : (m.processTicket sha256 ticket random true).result = 1) :
    ∃ s, (ringOf seeds).Issues s ∧
      (m.processTicket sha256 ticket random true).ticket = ticketOf sha256 s random.salt random.iv ∧
      (m.processTicket sha256 ticket random true).contexts = some (contextsOf sha256 s random.salt random.iv) := by
  cases found : m.findEncryptionKey random.rand32 with
  | none => simp [processTicket, found] at done
  | some key =>
      obtain ⟨s, issues, rfl⟩ := configured.issues (findEncryptionKey_mem found)
      refine ⟨s, issues, ?_⟩
      simp only [processTicket, if_true, found]
      exact ⟨rfl, rfl⟩

theorem Configured.issued (configured : Configured sha256 seeds m) {contexts : Contexts}
    (issued : Issued sha256 m ticket contexts) :
    ∃ s salt iv, (ringOf seeds).Issues s ∧ ticket = ticketOf sha256 s salt iv ∧
      contexts = contextsOf sha256 s salt iv := by
  obtain ⟨buffers, random, processed, asked, done, rfl, isContexts⟩ := issued
  simp only [callback] at asked
  split at asked
  · cases asked
    obtain ⟨s, issues, isTicket, same⟩ := configured.encrypted done
    exact ⟨s, random.salt, random.iv, issues, isTicket, Option.some.inj (isContexts.symm.trans same)⟩
  · cases asked

theorem Configured.issued_of_issues (configured : Configured sha256 seeds m) (separate : Separate sha256 seeds)
    (issues : (ringOf seeds).Issues s) (salt : Salt) (iv : Bytes) :
    Issued sha256 m (ticketOf sha256 s salt iv) (contextsOf sha256 s salt iv) := by
  obtain ⟨rand32, found⟩ := exists_findEncryptionKey (configured.active_of_issues separate issues)
  have asked := (configured.ticketKeyCb_iff separate).mpr ⟨s, issues⟩
  refine ⟨⟨[], []⟩, ⟨rand32, salt, iv⟩, _, by simp only [callback, asked, if_true]; rfl, ?_⟩
  simp only [processTicket, if_true, found]
  exact ⟨trivial, rfl, rfl⟩

end tickets

end Wangle.Proof.Ssl
