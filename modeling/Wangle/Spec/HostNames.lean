import Mathlib.Data.Char
import Mathlib.Data.List.TakeWhile
import Wangle.Keyed.Insertions

/-!
# Certificate names and the hosts that they are for
-/

namespace Wangle.Spec
open Wangle.Keyed

/-- Names are the same up to ASCII case. -/
def SameName (a b : List Char) : Prop := a.map Char.toLower = b.map Char.toLower

/-- A wildcard name `*.S` is for the hosts `L.S` with one label `L`. -/
def Covers (name host : List Char) : Prop :=
  ∃ label suffix, label ≠ [] ∧ '.' ∉ label ∧ SameName name ('*' :: '.' :: suffix) ∧
    SameName host (label ++ '.' :: suffix)

instance (a b : List Char) : Decidable (SameName a b) := inferInstanceAs (Decidable (_ = _))

variable {name host a b c : List Char}

theorem SameName.symm (same : SameName a b) : SameName b a := Eq.symm same

theorem SameName.trans (first : SameName a b) (second : SameName b c) : SameName a c := Eq.trans first second

theorem toLower_eq_iff {c d : Char} (low : d.val < 'A'.val) : c.toLower = d ↔ c = d := by
  constructor
  · intro same
    unfold Char.toLower at same
    split at same
    · have value := congrArg Char.val same
      simp at value
      grind
    · exact same
  · rintro rfl
    unfold Char.toLower
    split
    · grind
    · rfl

theorem sameName_cons {d : Char} (low : d.val < 'A'.val) :
    SameName a (d :: b) ↔ ∃ rest, a = d :: rest ∧ SameName rest b := by
  have same : d.toLower = d := (toLower_eq_iff low).mpr rfl
  cases a with
  | nil => simp [SameName]
  | cons c rest => simp [SameName, same, toLower_eq_iff low, and_assoc]

theorem sameName_cons_cons {c d : Char} : SameName (c :: a) (d :: b) ↔ c.toLower = d.toLower ∧ SameName a b := by
  simp [SameName]

theorem SameName.head_iff {d : Char} (low : d.val < 'A'.val) (same : SameName a b) :
    a.head? = some d ↔ b.head? = some d := by
  have lower (l : List Char) : l.head? = some d ↔ (l.map Char.toLower).head? = some d := by
    cases l with
    | nil => simp
    | cons c l => simp [toLower_eq_iff low]
  rw [lower a, lower b, same]

theorem sameName_append : SameName a (b ++ c) ↔ ∃ front rest, a = front ++ rest ∧ SameName front b ∧ SameName rest c := by
  simp only [SameName, List.map_append, List.map_eq_append_iff]

theorem SameName.mem_iff {d : Char} (low : d.val < 'A'.val) (same : SameName a b) : d ∈ a ↔ d ∈ b := by
  have lower (l : List Char) : d ∈ l ↔ d ∈ l.map Char.toLower := by
    simp [toLower_eq_iff low]
  rw [lower a, lower b, same]

theorem dropWhile_label {label rest : List Char} (single : '.' ∉ label) :
    (label ++ '.' :: rest).dropWhile (· ≠ '.') = '.' :: rest := by
  rw [List.dropWhile_append_of_pos]
  · simp
  · intro c member
    have other : c ≠ '.' := fun isDot => single (isDot ▸ member)
    simpa using other

theorem exists_suffix (nonempty : host.dropWhile (· ≠ '.') ≠ []) :
    ∃ suffix, host.dropWhile (· ≠ '.') = '.' :: suffix := by
  obtain ⟨c, suffix, isRest⟩ := List.exists_cons_of_ne_nil nonempty
  have first := List.head?_dropWhile_not (fun c => decide (c ≠ '.')) host
  rw [isRest] at first
  have dot : c = '.' := by simpa using first
  exact ⟨suffix, by rw [isRest, dot]⟩

theorem covers_iff : Covers name host ↔
    host.head? ≠ some '.' ∧ host.dropWhile (· ≠ '.') ≠ [] ∧ SameName name ('*' :: host.dropWhile (· ≠ '.')) := by
  constructor
  · rintro ⟨label, suffix, nonempty, single, isName, isHost⟩
    obtain ⟨front, rest, rfl, isLabel, isRest⟩ := sameName_append.mp isHost
    obtain ⟨rest, rfl, isSuffix⟩ := (sameName_cons (by decide)).mp isRest
    have noDot : '.' ∉ front := fun dot => single ((isLabel.mem_iff (by decide)).mp dot)
    rw [dropWhile_label noDot]
    refine ⟨?_, List.cons_ne_nil _ _, isName.trans ?_⟩
    · cases front with
      | nil => simp [SameName, eq_comm, nonempty] at isLabel
      | cons c front =>
          simp only [List.mem_cons, not_or] at noDot
          simpa [eq_comm] using noDot.1
    · have tail : suffix.map Char.toLower = rest.map Char.toLower := isSuffix.symm
      simp [SameName, tail]
  · rintro ⟨noDot, nonempty, isName⟩
    have split := List.takeWhile_append_dropWhile (p := (· ≠ '.')) (l := host)
    obtain ⟨suffix, isRest⟩ := exists_suffix nonempty
    refine ⟨host.takeWhile (· ≠ '.'), suffix, ?_, ?_, isRest ▸ isName, ?_⟩
    · intro none
      rw [none, List.nil_append, isRest] at split
      exact noDot (by rw [← split]; rfl)
    · intro member
      simpa using List.mem_takeWhile_imp member
    · rw [← isRest, split]
      rfl

instance : Decidable (Covers name host) := decidable_of_iff _ covers_iff.symm

/-- The latest entry for the host itself, or else the latest wildcard entry. -/
def select {Ctx : Type} (host : List Char) (entries : List (List Char × Ctx)) : Option Ctx :=
  ((latest (fun entry => SameName entry.1 host) entries).or (latest (fun entry => Covers entry.1 host) entries)).map
    Prod.snd

end Wangle.Spec
