import Wangle.Intrusive.Iterator

/-!
# Sweeps through a list that shrinks

A sweep visits the nodes of a list in their order while nodes are removed. Its log has each node that it
has visited, with the nodes that the list had at that moment.
-/

namespace Wangle.Intrusive

variable {α : Type}

/-- The sweep has visited the nodes of `log` and has `left` before it. It passes over those nodes only that
are not in the list any more. -/
inductive Visits : List α → List (α × List α) → List α → Prop
  | stop (ahead : List α) : Visits ahead [] ahead
  | visit {c : α} {skipped tail left present : List α} {log : List (α × List α)}
      (gone : ∀ x ∈ skipped, x ∉ present) (there : c ∈ present) (further : Visits tail log left) :
      Visits (skipped ++ c :: tail) ((c, present) :: log) left

namespace Visits
variable {ahead middle left : List α} {log more : List (α × List α)}

theorem cons {c : α} {tail present : List α} (there : c ∈ present) (further : Visits tail log left) :
    Visits (c :: tail) ((c, present) :: log) left :=
  @visit _ c [] tail left present log (by simp) there further

theorem append (first : Visits ahead log middle) (second : Visits middle more left) :
    Visits ahead (log ++ more) left := by
  induction first with
  | stop ahead => exact second
  | visit gone there further ih => exact .visit gone there (ih second)

theorem sublist (visits : Visits ahead log left) : (log.map Prod.fst ++ left).Sublist ahead := by
  induction visits with
  | stop ahead => exact List.Sublist.refl _
  | visit gone there further ih => exact (ih.cons_cons _).trans (List.sublist_append_right _ _)

theorem length_le (visits : Visits ahead log left) : log.length + left.length ≤ ahead.length := by
  have bounded := visits.sublist.length_le
  rwa [List.length_append, List.length_map] at bounded

theorem skip (c : α) (visits : Visits ahead log left) (gone : ∀ v ∈ log.head?, c ∉ v.2) :
    Visits (c :: ahead) log (if log = [] then c :: left else left) := by
  cases visits with
  | stop => exact .stop _
  | @visit d skipped tail _ present log absent there further =>
      refine @visit _ d (c :: skipped) tail left present log ?_ there further
      intro x member
      rcases List.mem_cons.mp member with rfl | member
      · exact gone _ rfl
      · exact absent x member

variable [DecidableEq α]

theorem of_filter {list : List α} (visits : Visits (ahead.filter (· ∈ list)) log left)
    (shrinks : ∀ v ∈ log, v.2 ⊆ list) : ∃ left', Visits ahead log left' ∧ left'.filter (· ∈ list) = left := by
  induction ahead generalizing log with
  | nil =>
      obtain ⟨none, empty⟩ := Nat.add_eq_zero_iff.mp (Nat.le_zero.mp visits.length_le)
      obtain rfl := List.length_eq_zero_iff.mp none
      obtain rfl := List.length_eq_zero_iff.mp empty
      exact ⟨[], .stop [], rfl⟩
  | cons c ahead ih =>
      by_cases there : c ∈ list
      · rw [List.filter_cons_of_pos (by simpa using there)] at visits
        generalize kept : c :: ahead.filter (· ∈ list) = nodes at visits
        cases visits with
        | stop => exact ⟨c :: ahead, .stop _, by rw [List.filter_cons_of_pos (by simpa using there), kept]⟩
        | @visit d skipped tail _ present log gone here further =>
            cases skipped with
            | nil =>
                rw [List.nil_append, List.cons.injEq] at kept
                obtain ⟨rfl, rfl⟩ := kept
                obtain ⟨left', swept, same⟩ := ih further fun v member => shrinks v (List.mem_cons_of_mem _ member)
                exact ⟨left', .cons here swept, same⟩
            | cons x skipped =>
                rw [List.cons_append, List.cons.injEq] at kept
                obtain ⟨rfl, kept⟩ := kept
                have visits : Visits (ahead.filter (· ∈ list)) ((d, present) :: log) left := by
                  rw [kept]
                  exact .visit (fun y member => gone y (List.mem_cons_of_mem _ member)) here further
                obtain ⟨left', swept, same⟩ := ih visits shrinks
                exact ⟨left', swept.skip c fun v first => by cases first; exact gone c List.mem_cons_self, same⟩
      · rw [List.filter_cons_of_neg (by simpa using there)] at visits
        obtain ⟨left', swept, same⟩ := ih visits shrinks
        have gone : ∀ v ∈ log.head?, c ∉ v.2 := by
          intro v first inside
          exact there (shrinks v (List.mem_of_mem_head? first) inside)
        refine ⟨_, swept.skip c gone, ?_⟩
        split
        · rwa [List.filter_cons_of_neg (by simpa using there)]
        · exact same

end Visits
end Wangle.Intrusive
