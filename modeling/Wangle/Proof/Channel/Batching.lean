import Wangle.Channel.OutputBufferingHandler
import Mathlib.Data.List.Nodup
import Mathlib.Data.List.Pairwise

/-!
# Buffering of the output is transparent
-/

namespace Wangle.Proof.Channel
open Wangle.Channel OutputBufferingHandler
open Wangle.Transition hiding run

variable {X : Type} {s s' : OutputBufferingHandler X}

def numbers (buffers : List Buffer) : List Nat := buffers.map (·.write)

def passed (s : OutputBufferingHandler X) : List Buffer := s.batches.flatMap (·.buffers)

def withinClose (s : OutputBufferingHandler X) : Bool := s.completing.any (·.closes)

def answered (s : OutputBufferingHandler X) : List Nat :=
  s.completions.map Prod.fst ++ s.completing.flatMap (·.promises)

/-- The result is that of the write passed down that contains the buffer, or an error if the buffer was discarded. -/
def Earned (s : OutputBufferingHandler X) (write : Nat) (result : SendResult X) : Prop :=
  (∃ batch ∈ s.batches, write ∈ numbers batch.buffers ∧ batch.result = some result) ∨
  (write ∈ s.discarded ∧ result.isError = true)

def Answerable (s : OutputBufferingHandler X) (write : Nat) : Prop :=
  (∃ batch ∈ s.batches, write ∈ numbers batch.buffers ∧ batch.result ≠ none) ∨ write ∈ s.discarded

theorem Earned.answerable {write : Nat} {result : SendResult X} (earned : Earned s write result) :
    Answerable s write := by
  obtain ⟨batch, member, inside, known⟩ | ⟨discarded, -⟩ := earned
  · exact .inl ⟨batch, member, inside, by simp [known]⟩
  · exact .inr discarded

def live (s : OutputBufferingHandler X) : List Buffer := if withinClose s then [] else s.queue

theorem live_of_closing (inside : withinClose s = true) : live s = [] := by
  rw [live, inside]
  rfl

theorem live_of_outside (outside : withinClose s = false) : live s = s.queue := by
  rw [live, outside]
  rfl

structure Batching (s : OutputBufferingHandler X) : Prop where
  queues : s.queueSends = true
  numbered : numbers s.written = List.range s.written.length
  scheduled : withinClose s = false → s.loopCallbackScheduled = s.sends.isSome
  promised : withinClose s = false → s.sharedPromise = { promises := numbers s.queue }
  closed : withinClose s = true → s.loopCallbackScheduled = false ∧ s.sharedPromise.promises = []
  dropped : withinClose s = true → numbers s.queue ⊆ s.discarded
  kept : passed s ++ live s = s.written.filter (·.write ∉ s.discarded)
  discards : ∀ write ∈ s.discarded, write < s.written.length
  outstanding : ∀ batch ∈ s.batches, batch.result = none → batch.promises = numbers batch.buffers
  once : (answered s).Nodup
  earned : ∀ entry ∈ s.completions, Earned s entry.1 entry.2
  earning : ∀ group ∈ s.completing, ∀ write ∈ group.promises, Earned s write group.result
  answers : ∀ write, Answerable s write → write ∈ answered s

theorem batching_start : Batching ({} : OutputBufferingHandler X) where
  queues := rfl
  numbered := rfl
  scheduled := fun _ => rfl
  promised := fun _ => rfl
  closed := by simp [withinClose]
  dropped := by simp [withinClose]
  kept := rfl
  discards := by simp
  outstanding := by simp
  once := by simp [answered]
  earned := by simp
  earning := by simp
  answers := by simp [Answerable]

theorem mem_numbers {buffers : List Buffer} {write : Nat} :
    write ∈ numbers buffers ↔ ∃ buffer ∈ buffers, buffer.write = write := List.mem_map

theorem filter_front {front back : List Buffer} (distinct : (numbers (front ++ back)).Nodup) :
    (front ++ back).filter (·.write ∉ numbers back) = front := by
  rw [numbers, List.map_append, List.nodup_append'] at distinct
  have stays : front.filter (·.write ∉ numbers back) = front := by
    refine List.filter_eq_self.mpr fun buffer member => decide_eq_true fun inside => ?_
    exact distinct.2.2 (List.mem_map_of_mem member) inside
  have goes : back.filter (·.write ∉ numbers back) = [] := by
    refine List.filter_eq_nil_iff.mpr fun buffer member => ?_
    simpa using mem_numbers.mpr ⟨buffer, member, rfl⟩
  rw [List.filter_append, stays, goes, List.append_nil]

theorem Batching.written_nodup (holds : Batching s) : (numbers s.written).Nodup := by
  rw [holds.numbered]
  exact List.nodup_range

theorem Batching.kept_nodup (holds : Batching s) : (numbers (passed s ++ live s)).Nodup := by
  rw [holds.kept]
  exact holds.written_nodup.sublist (List.filter_sublist.map _)

theorem Batching.distinct (holds : Batching s) :
    (numbers (passed s)).Nodup ∧ (numbers (live s)).Nodup ∧ (numbers (passed s)).Disjoint (numbers (live s)) := by
  have distinct := holds.kept_nodup
  rwa [numbers, List.map_append, List.nodup_append'] at distinct

theorem Batching.batch_nodup (holds : Batching s) {batch : Batch X} (member : batch ∈ s.batches) :
    (numbers batch.buffers).Nodup := by
  have distinct := holds.distinct.1
  rw [numbers, passed, List.map_flatMap, List.nodup_flatMap] at distinct
  exact distinct.1 batch member

theorem Batching.not_discarded (holds : Batching s) {write : Nat}
    (member : write ∈ numbers (passed s) ∨ write ∈ numbers (live s)) : write ∉ s.discarded := by
  rw [← List.mem_append, numbers, numbers, ← List.map_append] at member
  obtain ⟨buffer, keeps, rfl⟩ := List.mem_map.mp member
  rw [holds.kept] at keeps
  exact of_decide_eq_true (List.mem_filter.mp keeps).2

theorem Batching.live_subset (holds : Batching s) : numbers s.queue ⊆ s.discarded ++ numbers (live s) := by
  intro write member
  rw [List.mem_append]
  cases inClose : withinClose s with
  | true => exact .inl (holds.dropped inClose member)
  | false =>
      rw [live, inClose]
      exact .inr member

theorem live_subset_queue : live s ⊆ s.queue := by
  unfold live
  split
  · exact List.nil_subset _
  · exact List.Subset.refl _

theorem Batching.passed_eq (holds : Batching s) :
    passed s = s.written.filter fun buffer => buffer.write ∉ s.discarded ∧ buffer.write ∉ numbers s.queue := by
  calc passed s
      = (passed s ++ live s).filter (·.write ∉ numbers (live s)) := (filter_front holds.kept_nodup).symm
    _ = s.written.filter fun buffer =>
          decide (buffer.write ∉ numbers (live s)) && decide (buffer.write ∉ s.discarded) := by
        rw [holds.kept, List.filter_filter]
    _ = _ := by
        refine List.filter_congr fun buffer _ => ?_
        rw [Bool.eq_iff_iff, Bool.and_eq_true, decide_eq_true_iff, decide_eq_true_iff, decide_eq_true_iff]
        constructor
        · rintro ⟨notLive, kept⟩
          refine ⟨kept, fun queued => ?_⟩
          exact (List.mem_append.mp (holds.live_subset queued)).elim kept notLive
        · rintro ⟨kept, notQueued⟩
          exact ⟨fun inside => notQueued (List.map_subset _ live_subset_queue inside), kept⟩

theorem Batching.answerable (holds : Batching s) {write : Nat} (member : write ∈ answered s) : Answerable s write := by
  obtain completed | completing := List.mem_append.mp member
  · obtain ⟨entry, isEntry, rfl⟩ := List.mem_map.mp completed
    exact (holds.earned entry isEntry).answerable
  · obtain ⟨group, isGroup, inside⟩ := List.mem_flatMap.mp completing
    exact (holds.earning group isGroup write inside).answerable

theorem mem_passed {batch : Batch X} (member : batch ∈ s.batches) {write : Nat}
    (inside : write ∈ numbers batch.buffers) : write ∈ numbers (passed s) := by
  obtain ⟨buffer, inBatch, rfl⟩ := mem_numbers.mp inside
  exact mem_numbers.mpr ⟨buffer, List.mem_flatMap.mpr ⟨batch, member, inBatch⟩, rfl⟩

theorem Batching.live_not_answered (holds : Batching s) {write : Nat} (member : write ∈ numbers (live s)) :
    write ∉ answered s := by
  intro isAnswered
  obtain ⟨batch, isBatch, inside, -⟩ | discarded := holds.answerable isAnswered
  · exact holds.distinct.2.2 (mem_passed isBatch inside) member
  · exact holds.not_discarded (.inr member) discarded

theorem write_eq (holds : Batching s) (outside : withinClose s = false) (debug : Bool) (bytes : List UInt8) :
    s.write debug bytes = .ok { s with
      written := s.written ++ [{ write := s.written.length, bytes }],
      sends := some (s.queue ++ [{ write := s.written.length, bytes }]),
      loopCallbackScheduled := true,
      sharedPromise := { promises := numbers s.queue ++ [s.written.length] } } := by
  have scheduled := holds.scheduled outside
  have promised := holds.promised outside
  cases sending : s.sends with
  | none =>
      rw [sending] at scheduled
      simp [write, holds.queues, sending, scheduled, getFuture, promised, queue]
  | some sends =>
      rw [sending] at scheduled
      simp [write, holds.queues, sending, scheduled, getFuture, promised, queue]

theorem write_batching (holds : Batching s) (outside : withinClose s = false) (debug : Bool) (bytes : List UInt8) :
    Yields (· = .dcheck) Batching (s.write debug bytes) := by
  rw [write_eq holds outside]
  have fresh : s.written.length ∉ s.discarded := fun old => Nat.lt_irrefl _ (holds.discards _ old)
  refine { holds with
    numbered := ?_
    scheduled := fun _ => rfl
    promised := fun _ => ?_
    closed := fun inside => absurd (outside.symm.trans inside) Bool.false_ne_true
    dropped := fun inside => absurd (outside.symm.trans inside) Bool.false_ne_true
    kept := ?_
    discards := ?_ }
  · have before := holds.numbered
    rw [numbers] at before
    simp [numbers, before, List.range_succ]
  · simp [numbers, queue]
  · have before := holds.kept
    rw [live_of_outside outside] at before
    rw [List.filter_append, ← before, live_of_outside]
    · simp [passed, queue, fresh]
    · exact outside
  · intro write discarded
    rw [List.length_append]
    exact Nat.lt_succ_of_lt (holds.discards write discarded)

theorem Earned.of_batches {write : Nat} {result : SendResult X}
    (same : ∀ batch ∈ s.batches, batch.result ≠ none → batch ∈ s'.batches) (more : s.discarded ⊆ s'.discarded)
    (earned : Earned s write result) : Earned s' write result := by
  obtain ⟨batch, member, inside, known⟩ | ⟨discarded, isError⟩ := earned
  · exact .inl ⟨batch, same batch member (by simp [known]), inside, known⟩
  · exact .inr ⟨more discarded, isError⟩

theorem runLoopCallback_batching (holds : Batching s) : Yields (· = .dcheck) Batching s.runLoopCallback := by
  unfold runLoopCallback
  split
  · rename_i due
    have outside : withinClose s = false := by simp [withinClose, due.2]
    have earlier : ∀ batch ∈ s.batches, batch.result ≠ none →
        batch ∈ s.batches ++ [{ buffers := s.queue, promises := s.sharedPromise.promises }] :=
      fun batch member _ => List.mem_append_left _ member
    refine { holds with
      scheduled := fun _ => rfl
      promised := fun _ => rfl
      closed := fun inside => absurd (outside.symm.trans inside) Bool.false_ne_true
      dropped := fun inside => absurd (outside.symm.trans inside) Bool.false_ne_true
      kept := ?_
      outstanding := ?_
      earned := fun entry member => (holds.earned entry member).of_batches earlier (List.Subset.refl _)
      earning := fun group member write inside =>
        (holds.earning group member write inside).of_batches earlier (List.Subset.refl _)
      answers := ?_ }
    · have before := holds.kept
      rw [live_of_outside outside, passed] at before
      refine Eq.trans ?_ before
      rw [live_of_outside]
      · simp [passed, fireWrite, queue]
      · exact outside
    · intro batch member unknown
      obtain old | new := List.mem_append.mp member
      · exact holds.outstanding batch old unknown
      · rw [List.mem_singleton.mp new, holds.promised outside]
    · rintro write (⟨batch, member, inside, known⟩ | discarded)
      · obtain old | new := List.mem_append.mp member
        · exact holds.answers write (.inl ⟨batch, old, inside, known⟩)
        · rw [List.mem_singleton.mp new] at known
          exact absurd rfl known
      · exact holds.answers write (.inr discarded)
  · simp [Yields]

theorem Batching.same_batch (holds : Batching s) {batch other : Batch X} (member : batch ∈ s.batches)
    (isOther : other ∈ s.batches) {write : Nat} (inside : write ∈ numbers batch.buffers)
    (alsoInside : write ∈ numbers other.buffers) : batch = other := by
  have distinct := holds.distinct.1
  rw [numbers, passed, List.map_flatMap, List.nodup_flatMap] at distinct
  have : Std.Symm (Function.onFun List.Disjoint fun batch : Batch X => batch.buffers.map (·.write)) :=
    ⟨fun _ _ disjoint => List.disjoint_symm disjoint⟩
  refine Classical.byContradiction fun differ => ?_
  exact distinct.2.forall member isOther differ inside alsoInside

theorem mem_set_of_ne {batches : List (Batch X)} {i : Nat} {batch old new : Batch X} (there : batches[i]? = some old)
    (member : batch ∈ batches) (differ : batch ≠ old) : batch ∈ batches.set i new := by
  obtain ⟨j, atJ⟩ := List.mem_iff_getElem?.mp member
  have apart : i ≠ j := by
    rintro rfl
    exact differ (Option.some.inj (atJ.symm.trans there))
  exact List.mem_iff_getElem?.mpr ⟨j, (List.getElem?_set_ne apart).trans atJ⟩

theorem flatMap_set {batches : List (Batch X)} {i : Nat} {old new : Batch X} (there : batches[i]? = some old)
    (same : new.buffers = old.buffers) : (batches.set i new).flatMap (·.buffers) = batches.flatMap (·.buffers) := by
  obtain ⟨bound, rfl⟩ := List.getElem?_eq_some_iff.mp there
  rw [List.flatMap_def, List.flatMap_def, List.map_set, same]
  congr 1
  rw [← List.getElem_map (fun batch : Batch X => batch.buffers) (h := by simpa using bound), List.set_getElem_self]

theorem nodup_insert {front new back : List Nat} (distinct : (front ++ back).Nodup) (newDistinct : new.Nodup)
    (isNew : ∀ write ∈ new, write ∉ front ++ back) : (front ++ (new ++ back)).Nodup :=
  (List.perm_append_comm_assoc _ _ _).nodup_iff.mpr (List.nodup_append'.mpr ⟨newDistinct, distinct, isNew⟩)

theorem complete_batching (holds : Batching s) (i : Nat) (failure : Option X) :
    Yields (· = .dcheck) Batching (s.complete i failure) := by
  unfold complete
  split
  · rename_i buffers promises there
    have member := List.mem_of_getElem? there
    have same : promises = numbers buffers := holds.outstanding _ member rfl
    have earlier : ∀ batch ∈ s.batches, batch.result ≠ none →
        batch ∈ s.batches.set i { buffers, promises := [], result := some (resultOf failure) } :=
      fun batch isBatch known => mem_set_of_ne there isBatch (fun equal => known (equal ▸ rfl))
    have isNew : ∀ write ∈ promises, write ∉ answered s := by
      intro write inside isAnswered
      rw [same] at inside
      obtain ⟨batch, isBatch, alsoInside, known⟩ | discarded := holds.answerable isAnswered
      · rw [holds.same_batch isBatch member alsoInside inside] at known
        exact known rfl
      · exact holds.not_discarded (.inl (mem_passed member inside)) discarded
    have newDistinct : promises.Nodup := same ▸ holds.batch_nodup member
    refine { holds with
      kept := ?_
      outstanding := ?_
      once := nodup_insert holds.once newDistinct isNew
      earned := fun entry isEntry => (holds.earned entry isEntry).of_batches earlier (List.Subset.refl _)
      earning := ?_
      answers := ?_ }
    · refine Eq.trans ?_ holds.kept
      exact congrArg (· ++ live s) (flatMap_set there rfl)
    · intro batch isBatch unknown
      obtain old | rfl := List.mem_or_eq_of_mem_set isBatch
      · exact holds.outstanding batch old unknown
      · cases unknown
    · intro group isGroup write inside
      obtain rfl | old := List.mem_cons.mp isGroup
      · exact .inl ⟨_, List.mem_set (List.getElem?_eq_some_iff.mp there).1 _, same ▸ inside, rfl⟩
      · exact (holds.earning group old write inside).of_batches earlier (List.Subset.refl _)
    · have more : ∀ write, write ∈ promises ∨ write ∈ answered s → write ∈ s.completions.map Prod.fst ++
          (promises ++ s.completing.flatMap (·.promises)) := by
        intro write either
        rw [List.mem_append, List.mem_append]
        rw [answered, List.mem_append] at either
        tauto
      rintro write (⟨batch, isBatch, inside, known⟩ | discarded)
      · obtain old | rfl := List.mem_or_eq_of_mem_set isBatch
        · exact more write (.inr (holds.answers write (.inl ⟨batch, old, inside, known⟩)))
        · exact more write (.inl (same ▸ inside))
      · exact more write (.inr (holds.answers write (.inr discarded)))
  · simp [Yields]

theorem Batching.promises_eq (holds : Batching s) : s.sharedPromise.promises = numbers (live s) := by
  cases inClose : withinClose s with
  | true =>
      rw [live_of_closing inClose]
      exact (holds.closed inClose).2
  | false => rw [live_of_outside inClose, holds.promised inClose]

section Abandon
variable (result : SendResult X) (closes : Bool)

theorem abandon_once (holds : Batching s) : (answered (s.abandon result closes)).Nodup := by
  refine nodup_insert holds.once ?_ ?_
  · rw [holds.promises_eq]
    exact holds.distinct.2.1
  · intro write inside
    rw [holds.promises_eq] at inside
    exact holds.live_not_answered inside

theorem Earned.abandon {write : Nat} {earlier : SendResult X} (earned : Earned s write earlier) :
    Earned (s.abandon result closes) write earlier := by
  refine earned.of_batches ?_ (List.subset_append_left _ _)
  exact fun batch member _ => member

theorem abandon_earning (holds : Batching s) (isError : result.isError = true) :
    ∀ group ∈ (s.abandon result closes).completing, ∀ write ∈ group.promises,
      Earned (s.abandon result closes) write group.result := by
  intro group member write inside
  obtain rfl | old := List.mem_cons.mp member
  · rw [holds.promises_eq] at inside
    exact .inr ⟨List.mem_append_right _ (List.map_subset _ live_subset_queue inside), isError⟩
  · exact (holds.earning group old write inside).abandon result closes

theorem abandon_answers (holds : Batching s) (write : Nat) (answerable : Answerable (s.abandon result closes) write) :
    write ∈ answered (s.abandon result closes) := by
  have more : write ∈ numbers (live s) ∨ write ∈ answered s := by
    obtain inBatch | discarded := answerable
    · exact .inr (holds.answers write (.inl inBatch))
    · obtain old | queued := List.mem_append.mp discarded
      · exact .inr (holds.answers write (.inr old))
      · obtain old | stays := List.mem_append.mp (holds.live_subset queued)
        · exact .inr (holds.answers write (.inr old))
        · exact .inl stays
  have gathered : answered (s.abandon result closes) =
      s.completions.map Prod.fst ++ (numbers (live s) ++ s.completing.flatMap (·.promises)) := by
    rw [← holds.promises_eq]
    rfl
  rw [gathered, List.mem_append, List.mem_append]
  rw [answered, List.mem_append] at more
  tauto

theorem abandon_kept (holds : Batching s) :
    passed s = s.written.filter (·.write ∉ (s.abandon result closes).discarded) := by
  refine holds.passed_eq.trans (List.filter_congr fun buffer _ => ?_)
  rw [decide_eq_decide]
  change _ ↔ buffer.write ∉ s.discarded ++ numbers s.queue
  rw [List.mem_append, not_or]

theorem abandon_discards (holds : Batching s) :
    ∀ write ∈ (s.abandon result closes).discarded, write < s.written.length := by
  intro write member
  obtain old | queued := List.mem_append.mp member
  · exact holds.discards write old
  · obtain old | stays := List.mem_append.mp (holds.live_subset queued)
    · exact holds.discards write old
    · obtain ⟨buffer, inLive, rfl⟩ := mem_numbers.mp stays
      have isWritten : buffer ∈ s.written.filter (·.write ∉ s.discarded) := by
        rw [← holds.kept]
        exact List.mem_append_right _ inLive
      have numbered : buffer.write ∈ numbers s.written :=
        mem_numbers.mpr ⟨buffer, List.mem_of_mem_filter isWritten, rfl⟩
      rw [holds.numbered] at numbered
      exact List.mem_range.mp numbered

theorem abandon_batching (holds : Batching s) (isError : result.isError = true) {sends : Option (List Buffer)}
    {sharedPromise : SharedPromise X} (empty : sharedPromise.promises = [])
    (reset : (closes || withinClose s) = false → sends = none ∧ sharedPromise = {})
    (abandoned : numbers (sends.getD []) ⊆ (s.abandon result closes).discarded) :
    Batching { s.abandon result closes with sends, sharedPromise } where
  queues := holds.queues
  numbered := holds.numbered
  scheduled outside := by
    rw [(reset outside).1]
    rfl
  promised outside := by
    rw [(reset outside).2, (reset outside).1]
    rfl
  closed _ := ⟨rfl, empty⟩
  dropped _ := abandoned
  kept := by
    have noneLeft : live { s.abandon result closes with sends, sharedPromise } = [] := by
      cases inClose : closes || withinClose s with
      | true => exact live_of_closing inClose
      | false =>
          rw [live_of_outside (by exact inClose), queue, (reset inClose).1]
          rfl
    rw [noneLeft, List.append_nil]
    exact abandon_kept result closes holds
  discards := abandon_discards result closes holds
  outstanding := holds.outstanding
  once := abandon_once result closes holds
  earned entry member := (holds.earned entry member).abandon result closes
  earning := abandon_earning result closes holds isError
  answers := abandon_answers result closes holds

end Abandon

theorem cleanUp_batching (holds : Batching s) : Batching s.cleanUp :=
  abandon_batching .brokenPromise false holds rfl rfl (fun _ => ⟨rfl, rfl⟩) (List.nil_subset _)

theorem close_batching (holds : Batching s) : Batching s.close := by
  unfold close
  split
  · rename_i hasResult
    cases inClose : withinClose s with
    | true =>
        exact { holds with
          scheduled := fun outside => absurd (outside.symm.trans inClose) Bool.false_ne_true
          closed := fun inside => ⟨rfl, (holds.closed inside).2⟩ }
    | false =>
        rw [holds.promised inClose] at hasResult
        cases hasResult
  · refine abandon_batching .pendingAtClose true holds rfl rfl ?_ (List.subset_append_right _ _)
    intro outside
    cases outside

theorem Batching.regroup (holds : Batching s) {completions : List (Nat × SendResult X)}
    {completing : List (Completing X)} (sameClosing : completing.any (·.closes) = withinClose s)
    (sameAnswered : completions.map Prod.fst ++ completing.flatMap (·.promises) = answered s)
    (earned : ∀ entry ∈ completions, Earned s entry.1 entry.2)
    (earning : ∀ group ∈ completing, ∀ write ∈ group.promises, Earned s write group.result) :
    Batching { s with completions, completing } where
  queues := holds.queues
  numbered := holds.numbered
  scheduled outside := holds.scheduled (sameClosing.symm.trans outside)
  promised outside := holds.promised (sameClosing.symm.trans outside)
  closed inside := holds.closed (sameClosing.symm.trans inside)
  dropped inside := holds.dropped (sameClosing.symm.trans inside)
  kept := by
    refine Eq.trans ?_ holds.kept
    rw [live, live, ← sameClosing]
    rfl
  discards := holds.discards
  outstanding := holds.outstanding
  once := by
    rw [answered, sameAnswered]
    exact holds.once
  earned := earned
  earning := earning
  answers write answerable := by
    rw [answered, sameAnswered]
    exact holds.answers write answerable

theorem finishClose_batching (holds : Batching s) {result : SendResult X} {completing : List (Completing X)}
    (isFirst : s.completing = { promises := [], result, closes := true } :: completing) :
    Batching (finishClose { s with completing }) := by
  have inside : withinClose s = true := by rw [withinClose, isFirst, List.any_cons, Bool.true_or]
  have noPromises := (holds.closed inside).2
  have unscheduled := (holds.closed inside).1
  have sameAnswered : answered (finishClose { s with completing }) = answered s := by
    simp [answered, finishClose, isFirst, noPromises]
  refine { holds with
    scheduled := fun _ => unscheduled
    promised := fun _ => rfl
    closed := fun _ => ⟨unscheduled, rfl⟩
    dropped := fun _ => List.nil_subset _
    kept := ?_
    once := sameAnswered ▸ holds.once
    earning := ?_
    answers := fun write answerable => sameAnswered ▸ holds.answers write answerable }
  · have noneLeft : live (finishClose { s with completing }) = [] := by
      rw [live]
      split <;> rfl
    rw [noneLeft, ← live_of_closing inside]
    exact holds.kept
  · intro group member write within
    obtain rfl | old := List.mem_cons.mp member
    · rw [show s.sharedPromise.promises = [] from noPromises] at within
      cases within
    · exact holds.earning group (by rw [isFirst]; exact List.mem_cons_of_mem _ old) write within

theorem resume_batching (holds : Batching s) : Yields (· = .dcheck) Batching s.resume := by
  have earning := holds.earning
  unfold resume
  split
  · simp [Yields]
  · rename_i write promises result closes completing isFirst
    rw [isFirst] at earning
    refine holds.regroup ?_ ?_ ?_ ?_
    · rw [withinClose, isFirst, List.any_cons, List.any_cons]
    · simp [answered, isFirst]
    · intro entry member
      obtain old | new := List.mem_append.mp member
      · exact holds.earned entry old
      · rw [List.mem_singleton.mp new]
        exact earning _ List.mem_cons_self write List.mem_cons_self
    · intro group member other within
      obtain rfl | old := List.mem_cons.mp member
      · exact earning _ List.mem_cons_self other (List.mem_cons_of_mem _ within)
      · exact earning group (List.mem_cons_of_mem _ old) other within
  · rename_i result closes completing isFirst
    rw [isFirst] at earning
    cases closes with
    | true => exact finishClose_batching holds isFirst
    | false =>
        refine holds.regroup ?_ ?_ holds.earned ?_
        · rw [withinClose, isFirst, List.any_cons, Bool.false_or]
        · rw [answered, isFirst]
          rfl
        · exact fun group member => earning group (List.mem_cons_of_mem _ member)

/-- The calls do what they promise when no write comes while `close` completes the futures of the queue. -/
def WritesOutsideClose (s : OutputBufferingHandler X) : Op X → Prop
  | .write _ => withinClose s = false
  | .runLoopCallback => True
  | .complete .. => True
  | .cleanUp => True
  | .close => True
  | .resume => True

instance (s : OutputBufferingHandler X) : (op : Op X) → Decidable (WritesOutsideClose s op)
  | .write _ => inferInstanceAs (Decidable (withinClose s = false))
  | .runLoopCallback | .complete .. | .cleanUp | .close | .resume => isTrue trivial

theorem step_batching (debug : Bool) (holds : Batching s) (op : Op X) (permitted : WritesOutsideClose s op) :
    Yields (· = .dcheck) Batching (step debug s op) := by
  cases op with
  | write bytes => exact write_batching holds permitted debug bytes
  | runLoopCallback => exact runLoopCallback_batching holds
  | complete batch failure => exact complete_batching holds batch failure
  | cleanUp => exact cleanUp_batching holds
  | close => exact close_batching holds
  | resume => exact resume_batching holds

structure Transparent (s : OutputBufferingHandler X) : Prop where
  inOrder : passed s = s.written.filter fun buffer => buffer.write ∉ s.discarded ∧ buffer.write ∉ numbers s.queue
  once : (numbers (passed s)).Nodup
  -- while `close` is at work the queue is discarded already
  scheduled : withinClose s = false → s.loopCallbackScheduled = s.sends.isSome
  completesOnce : (s.completions.map Prod.fst).Nodup
  completesWith : ∀ entry ∈ s.completions, Earned s entry.1 entry.2
  completes : ∀ buffer ∈ s.written, buffer ∈ s.queue ∨
    (∃ batch ∈ s.batches, buffer ∈ batch.buffers ∧ batch.result = none) ∨
    (∃ group ∈ s.completing, buffer.write ∈ group.promises) ∨ buffer.write ∈ s.completions.map Prod.fst

theorem Batching.transparent (holds : Batching s) : Transparent s where
  inOrder := holds.passed_eq
  once := holds.distinct.1
  scheduled := holds.scheduled
  completesOnce := (List.nodup_append'.mp holds.once).1
  completesWith := holds.earned
  completes buffer isWritten := by
    have settled : buffer.write ∈ answered s → (∃ group ∈ s.completing, buffer.write ∈ group.promises) ∨
        buffer.write ∈ s.completions.map Prod.fst := by
      intro isAnswered
      obtain completed | completing := List.mem_append.mp isAnswered
      · exact .inr completed
      · exact .inl (List.mem_flatMap.mp completing)
    by_cases discarded : buffer.write ∈ s.discarded
    · exact .inr (.inr (settled (holds.answers _ (.inr discarded))))
    have keeps : buffer ∈ passed s ++ live s := by
      rw [holds.kept]
      exact List.mem_filter.mpr ⟨isWritten, decide_eq_true discarded⟩
    obtain inPassed | inLive := List.mem_append.mp keeps
    · obtain ⟨batch, isBatch, inside⟩ := List.mem_flatMap.mp inPassed
      cases known : batch.result with
      | none => exact .inr (.inl ⟨batch, isBatch, inside, known⟩)
      | some result =>
          have answerable : Answerable s buffer.write :=
            .inl ⟨batch, isBatch, mem_numbers.mpr ⟨buffer, inside, rfl⟩, by simp [known]⟩
          exact .inr (.inr (settled (holds.answers _ answerable)))
    · exact .inl (live_subset_queue inLive)

/-- With the `DCHECK`s compiled in or not, every run of such calls is as if the buffering were not there. -/
theorem buffering_transparent (debug : Bool) (ops : List (Op X))
    (permitted : Along (step debug) WritesOutsideClose ({} : OutputBufferingHandler X) ops) :
    Yields (· = .dcheck) Transparent (run debug ({} : OutputBufferingHandler X) ops) :=
  (yields_run (fun _ op holds permitted => step_batching debug holds op permitted) batching_start permitted).imp
    fun _ holds => holds.transparent

-- the third write comes from the completion of the first
theorem buffering_transparent_nested :
    Along (step true) WritesOutsideClose ({} : OutputBufferingHandler Unit)
      [.write [1], .write [2], .runLoopCallback, .complete 0 none, .resume, .write [3], .resume, .resume,
        .runLoopCallback, .complete 1 (some ()), .resume, .resume, .write [4], .close, .resume, .resume] ∧
    Yields (· = .dcheck) Transparent (run true ({} : OutputBufferingHandler Unit)
      [.write [1], .write [2], .runLoopCallback, .complete 0 none, .resume, .write [3], .resume, .resume,
        .runLoopCallback, .complete 1 (some ()), .resume, .resume, .write [4], .close, .resume, .resume]) :=
  ⟨by decide, buffering_transparent true _ (by decide)⟩

/-- The future that `close` fails has a continuation that writes again: the `DCHECK` fails, and without it the
buffer is lost, though it was not queued when `close` was called. -/
theorem buffering_not_transparent :
    run true ({} : OutputBufferingHandler Unit) [.write [1], .close, .resume, .write [2]] = .error .dcheck ∧
    ∃ s, run false ({} : OutputBufferingHandler Unit) [.write [1], .close, .resume, .write [2], .resume] = .ok s ∧
      s.completing = [{ promises := [], result := .brokenPromise }] ∧ s.discarded = [0] ∧ s.sends = none ∧
      passed s = [] ∧ ¬ Transparent s :=
  ⟨rfl, _, rfl, rfl, rfl, rfl, rfl, fun transparent => absurd transparent.inOrder (by decide)⟩

end Wangle.Proof.Channel
