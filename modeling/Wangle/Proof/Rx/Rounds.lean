import Wangle.Rx.Observable
import Mathlib.Data.List.Nodup

/-!
# Which notifications an observer of an `Observable` gets
-/

namespace Wangle.Proof.Rx
open Wangle.Rx Observable
open Wangle.Transition hiding run

variable {N : Type} {s s' : Observable N}

/-- The recipient was there when notification `k` started: it had subscribed, and its subscription was not destroyed. -/
def Expected (s : Observable N) (k : Nat) (recipient : Recipient) : Prop :=
  (∃ since, (recipient, since) ∈ s.registered ∧ since ≤ k) ∧
  ∀ id ending, recipient = .subscriber id → (id, ending) ∈ s.destroyed → k < ending

def audience (notification : Notification N) : List Recipient := notification.called ++ notification.due

def audiences (s : Observable N) : List (List Recipient) := s.notifications.map audience

def Present (s : Observable N) : Recipient → Prop
  | .observer number => number ∈ s.observers ∨ number ∈ s.newObservers
  | .subscriber id => (id ∈ s.subscribers ∧ id ∉ s.oldSubscribers) ∨ id ∈ s.newSubscribers

def Known (s : Observable N) : Recipient → Prop
  | .observer number => number < s.observed
  | .subscriber id => id < s.nextSubscriptionId

structure Tracked (s : Observable N) : Prop where
  heard : ∀ k group, (audiences s)[k]? = some group → group.Nodup ∧ ∀ recipient, recipient ∈ group ↔ Expected s k recipient
  present : ∀ recipient, Present s recipient ↔ Expected s s.started recipient
  observersNodup : (s.observers ++ s.newObservers).Nodup
  subscribersNodup : (s.subscribers ++ s.newSubscribers).Nodup
  observersKnown : ∀ number ∈ s.observers ++ s.newObservers, number < s.observed
  subscribersKnown : ∀ id ∈ s.subscribers ++ s.newSubscribers, id < s.nextSubscriptionId
  since : ∀ entry ∈ s.registered, entry.2 ≤ s.started ∧ Known s entry.1
  endings : ∀ entry ∈ s.destroyed, entry.2 ≤ s.started ∧ entry.1 < s.nextSubscriptionId
  olds : ∀ id ∈ s.oldSubscribers, ∃ ending, (id, ending) ∈ s.destroyed
  handles : ∀ id ∈ s.subscriptions, id < s.nextSubscriptionId
  settled : s.phase = .outside → s.newObservers = [] ∧ s.newSubscribers = [] ∧ s.oldSubscribers = []
  releasing : ∀ notification ids, s.phase = .releasing notification ids → s.newObservers = [] ∧ s.newSubscribers = [] ∧
    notification.due = [] ∧ ids ⊆ s.oldSubscribers ∧ ∀ id ∈ s.oldSubscribers, id ∈ ids ∨ id ∉ s.subscribers
  finished : ∀ notification ∈ s.past, notification.due = []

theorem tracked_start : Tracked ({} : Observable N) where
  heard := by simp [audiences, notifications, Phase.current]
  present := by
    intro recipient
    cases recipient <;> simp [Present, Expected]
  observersNodup := List.nodup_nil
  subscribersNodup := List.nodup_nil
  observersKnown := by simp
  subscribersKnown := by simp
  since := by simp
  endings := by simp
  olds := by simp
  handles := by simp
  settled := fun _ => ⟨rfl, rfl, rfl⟩
  releasing := by simp
  finished := by simp

theorem length_audiences : (audiences s).length = s.started := List.length_map ..

theorem lt_started {k : Nat} {group : List Recipient} (there : (audiences s)[k]? = some group) : k < s.started := by
  rw [← length_audiences]
  exact (List.getElem?_eq_some_iff.mp there).1

theorem expected_register {recipient other : Recipient} {k : Nat} (earlier : k < s.started) :
    Expected (s.register recipient) k other ↔ Expected s k other := by
  refine and_congr_left' ⟨?_, ?_⟩
  · rintro ⟨since, member, before⟩
    obtain old | new := List.mem_append.mp member
    · exact ⟨since, old, before⟩
    · cases List.mem_singleton.mp new
      omega
  · rintro ⟨since, member, before⟩
    exact ⟨since, List.mem_append_left _ member, before⟩

theorem expected_register_now {recipient other : Recipient}
    (fresh : ∀ id ending, recipient = .subscriber id → (id, ending) ∉ s.destroyed) :
    Expected (s.register recipient) s.started other ↔ other = recipient ∨ Expected s s.started other := by
  constructor
  · rintro ⟨⟨since, member, before⟩, ends⟩
    obtain old | new := List.mem_append.mp member
    · exact .inr ⟨⟨since, old, before⟩, ends⟩
    · cases List.mem_singleton.mp new
      exact .inl rfl
  · rintro (rfl | ⟨⟨since, member, before⟩, ends⟩)
    · refine ⟨⟨s.started, List.mem_append_right _ (List.mem_singleton.mpr rfl), Nat.le_refl _⟩, ?_⟩
      intro id ending isId member
      exact absurd member (fresh id ending isId)
    · exact ⟨⟨since, List.mem_append_left _ member, before⟩, ends⟩

theorem Tracked.outside_of (holds : Tracked s) (outside : s.phase.inCallback = false) :
    s.phase = .outside ∧ s.newObservers = [] ∧ s.newSubscribers = [] ∧ s.oldSubscribers = [] := by
  have phase : s.phase = .outside := by
    cases phase : s.phase with
    | outside => rfl
    | calling notification => simp [phase, Phase.inCallback] at outside
    | releasing notification ids => simp [phase, Phase.inCallback] at outside
  exact ⟨phase, holds.settled phase⟩

theorem Tracked.not_destroyed (holds : Tracked s) {recipient : Recipient} (present : Present s recipient) {id ending : Nat}
    (isId : recipient = .subscriber id) : (id, ending) ∉ s.destroyed := by
  intro member
  have later := ((holds.present recipient).mp present).2 id ending isId member
  have bound := (holds.endings _ member).1
  exact Nat.lt_irrefl _ (Nat.lt_of_lt_of_le later bound)

theorem Known.mono {observed nextSubscriptionId : Nat} {recipient : Recipient} (known : Known s recipient)
    (moreObserved : s.observed ≤ observed) (moreIds : s.nextSubscriptionId ≤ nextSubscriptionId) :
    Known { s with observed, nextSubscriptionId } recipient := by
  cases recipient with
  | observer number => exact Nat.lt_of_lt_of_le known moreObserved
  | subscriber id => exact Nat.lt_of_lt_of_le known moreIds

section Register
variable {recipient : Recipient} {observers newObservers subscribers newSubscribers subscriptions : List Nat}
  {observed nextSubscriptionId : Nat}

theorem register_tracked (holds : Tracked s) (quiet : ∀ notification ids, s.phase ≠ .releasing notification ids)
    (moreObserved : s.observed ≤ observed) (moreIds : s.nextSubscriptionId ≤ nextSubscriptionId)
    (fresh : ∀ id ending, recipient = .subscriber id → (id, ending) ∉ s.destroyed)
    (known : Known { s with observed, nextSubscriptionId } recipient)
    (present : ∀ other, Present { s with observers, newObservers, subscribers, newSubscribers } other ↔
      Present s other ∨ other = recipient)
    (observersNodup : (observers ++ newObservers).Nodup) (subscribersNodup : (subscribers ++ newSubscribers).Nodup)
    (observersKnown : ∀ number ∈ observers ++ newObservers, number < observed)
    (subscribersKnown : ∀ id ∈ subscribers ++ newSubscribers, id < nextSubscriptionId)
    (handles : ∀ id ∈ subscriptions, id < nextSubscriptionId)
    (settled : s.phase = .outside → newObservers = [] ∧ newSubscribers = []) :
    Tracked { s.register recipient with
      observers, newObservers, subscribers, newSubscribers, subscriptions, observed, nextSubscriptionId } where
  heard k group there := by
    obtain ⟨distinct, exact⟩ := holds.heard k group there
    have earlier : k < s.started := lt_started there
    exact ⟨distinct, fun other => (exact other).trans (expected_register earlier).symm⟩
  present other := by
    refine (present other).trans ?_
    rw [holds.present other, or_comm]
    exact (expected_register_now fresh).symm
  observersNodup := observersNodup
  subscribersNodup := subscribersNodup
  observersKnown := observersKnown
  subscribersKnown := subscribersKnown
  since entry member := by
    obtain old | new := List.mem_append.mp member
    · exact ⟨(holds.since entry old).1, (holds.since entry old).2.mono moreObserved moreIds⟩
    · rw [List.mem_singleton.mp new]
      exact ⟨Nat.le_refl _, known⟩
  endings entry member :=
    ⟨(holds.endings entry member).1, Nat.lt_of_lt_of_le (holds.endings entry member).2 moreIds⟩
  olds := holds.olds
  handles := handles
  settled outside := ⟨(settled outside).1, (settled outside).2, (holds.settled outside).2.2⟩
  releasing notification ids releasing := absurd releasing (quiet notification ids)
  finished := holds.finished

end Register

theorem lt_succ_of_mem_cons {l : List Nat} {x : Nat} (known : ∀ y ∈ l, y < x) : ∀ y ∈ x :: l, y < x + 1 := by
  intro y member
  obtain rfl | old := List.mem_cons.mp member
  · exact Nat.lt_succ_self y
  · exact Nat.lt_succ_of_lt (known y old)

theorem nodup_cons_of_lt {l : List Nat} {x : Nat} (distinct : l.Nodup) (known : ∀ y ∈ l, y < x) : (x :: l).Nodup :=
  List.nodup_cons.mpr ⟨fun member => Nat.lt_irrefl _ (known x member), distinct⟩

theorem observer_tracked (holds : Tracked s) (quiet : ∀ notification ids, s.phase ≠ .releasing notification ids)
    {observers newObservers : List Nat}
    (same : (observers ++ newObservers).Perm (s.observed :: (s.observers ++ s.newObservers)))
    (settled : s.phase = .outside → newObservers = []) :
    Tracked { s.register (.observer s.observed) with observers, newObservers, observed := s.observed + 1 } := by
  have noSubscription : ∀ id ending, Recipient.observer s.observed = .subscriber id → (id, ending) ∉ s.destroyed := by
    intro id ending equal
    cases equal
  have distinct := nodup_cons_of_lt holds.observersNodup holds.observersKnown
  have known := lt_succ_of_mem_cons holds.observersKnown
  refine register_tracked holds quiet (Nat.le_succ _) (Nat.le_refl _) noSubscription (Nat.lt_succ_self _) ?_
    (same.nodup_iff.mpr distinct) holds.subscribersNodup (fun number member => known number (same.mem_iff.mp member))
    holds.subscribersKnown holds.handles (fun outside => ⟨settled outside, (holds.settled outside).2.1⟩)
  intro other
  cases other with
  | observer number =>
      have there : number ∈ observers ++ newObservers ↔ number ∈ s.observed :: (s.observers ++ s.newObservers) :=
        same.mem_iff
      simpa [Present, or_comm (b := number = s.observed)] using there
  | subscriber id => simp [Present, register]

theorem Tracked.new_not_old (holds : Tracked s) {id : Nat} (new : id ∈ s.newSubscribers) : id ∉ s.oldSubscribers := by
  intro old
  obtain ⟨ending, isDestroyed⟩ := holds.olds id old
  have isPresent : Present s (.subscriber id) := .inr new
  exact holds.not_destroyed isPresent rfl isDestroyed

theorem present_subscriber {id : Nat} (newNotOld : id ∈ s.newSubscribers → id ∉ s.oldSubscribers) :
    Present s (.subscriber id) ↔ id ∈ s.subscribers ++ s.newSubscribers ∧ id ∉ s.oldSubscribers := by
  rw [List.mem_append, or_and_right]
  exact or_congr_right ⟨fun new => ⟨new, newNotOld new⟩, And.left⟩

theorem subscriber_tracked (holds : Tracked s) (quiet : ∀ notification ids, s.phase ≠ .releasing notification ids)
    {subscribers newSubscribers subscriptions : List Nat}
    (same : (subscribers ++ newSubscribers).Perm (s.nextSubscriptionId :: (s.subscribers ++ s.newSubscribers)))
    (added : newSubscribers ⊆ s.nextSubscriptionId :: s.newSubscribers)
    (handles : ∀ id ∈ subscriptions, id < s.nextSubscriptionId + 1)
    (settled : s.phase = .outside → newSubscribers = []) :
    Tracked { s.register (.subscriber s.nextSubscriptionId) with
      subscribers, newSubscribers, subscriptions, nextSubscriptionId := s.nextSubscriptionId + 1 } := by
  have notDestroyed : ∀ id ending, Recipient.subscriber s.nextSubscriptionId = .subscriber id →
      (id, ending) ∉ s.destroyed := by
    rintro id ending ⟨⟩ member
    exact Nat.lt_irrefl _ (holds.endings _ member).2
  have notOld : s.nextSubscriptionId ∉ s.oldSubscribers := by
    intro member
    obtain ⟨ending, isDestroyed⟩ := holds.olds _ member
    exact notDestroyed _ ending rfl isDestroyed
  have distinct := nodup_cons_of_lt holds.subscribersNodup holds.subscribersKnown
  have known := lt_succ_of_mem_cons holds.subscribersKnown
  refine register_tracked holds quiet (Nat.le_refl _) (Nat.le_succ _) notDestroyed (Nat.lt_succ_self _) ?_
    holds.observersNodup (same.nodup_iff.mpr distinct) holds.observersKnown
    (fun id member => known id (same.mem_iff.mp member)) handles
    (fun outside => ⟨(holds.settled outside).1, settled outside⟩)
  intro other
  cases other with
  | observer number => simp [Present, register]
  | subscriber id =>
      have newNotOld : id ∈ newSubscribers → id ∉ s.oldSubscribers := by
        intro new
        obtain rfl | earlier := List.mem_cons.mp (added new)
        · exact notOld
        · exact holds.new_not_old earlier
      refine (present_subscriber newNotOld).trans ?_
      rw [present_subscriber holds.new_not_old, same.mem_iff, List.mem_cons, Recipient.subscriber.injEq]
      constructor
      · rintro ⟨rfl | earlier, kept⟩
        · exact .inr rfl
        · exact .inl ⟨earlier, kept⟩
      · rintro (⟨earlier, kept⟩ | rfl)
        · exact ⟨.inr earlier, kept⟩
        · exact ⟨.inl rfl, notOld⟩

theorem observeInline_tracked (holds : Tracked s) (quiet : ∀ notification ids, s.phase ≠ .releasing notification ids) :
    Tracked s.observeInline := by
  unfold observeInline
  cases inside : s.phase.inCallback with
  | true =>
      simp only [register, inside, if_true]
      refine observer_tracked holds quiet ?_ ?_
      · rw [← List.append_assoc]
        exact List.perm_append_singleton _ _
      · intro outside
        rw [outside] at inside
        cases inside
  | false =>
      simp only [register, inside, Bool.false_eq_true, if_false]
      refine observer_tracked holds quiet ?_ (fun outside => (holds.settled outside).1)
      rw [List.append_assoc]
      exact List.perm_middle

theorem subscribeImpl_tracked (holds : Tracked s) (quiet : ∀ notification ids, s.phase ≠ .releasing notification ids)
    (indefinite : Bool) : Yields (· = .undefined) Tracked (s.subscribeImpl indefinite) := by
  have handles : ∀ id ∈ (if indefinite then s.subscriptions else s.subscriptions ++ [s.nextSubscriptionId]),
      id < s.nextSubscriptionId + 1 := by
    intro id member
    refine lt_succ_of_mem_cons holds.handles id ?_
    split at member
    · exact List.mem_cons_of_mem _ member
    · exact (List.perm_append_singleton _ _).mem_iff.mp member
  unfold subscribeImpl
  dsimp only
  split
  · simp [Yields]
  · cases inside : s.phase.inCallback with
    | true =>
        simp only [register, inside, if_true]
        refine subscriber_tracked holds quiet ?_ (List.perm_orderedInsert _ _ _).subset handles ?_
        · exact ((List.perm_orderedInsert _ _ _).append_left _).trans List.perm_middle
        · intro outside
          rw [outside] at inside
          cases inside
    | false =>
        simp only [register, inside, Bool.false_eq_true, if_false]
        refine subscriber_tracked holds quiet ?_ (List.subset_cons_self _ _) handles (fun outside => (holds.settled outside).2.1)
        exact (List.perm_orderedInsert _ _ _).append_right _

/-! ## Destroying a subscription -/

theorem expected_destroy {id k : Nat} {recipient : Recipient} (earlier : k < s.started) :
    Expected { s with destroyed := s.destroyed ++ [(id, s.started)] } k recipient ↔ Expected s k recipient := by
  refine and_congr_right' ⟨?_, ?_⟩
  · intro ends other ending isOther member
    exact ends other ending isOther (List.mem_append_left _ member)
  · intro ends other ending isOther member
    obtain old | new := List.mem_append.mp member
    · exact ends other ending isOther old
    · cases List.mem_singleton.mp new
      exact earlier

theorem expected_destroy_now {id : Nat} {recipient : Recipient} :
    Expected { s with destroyed := s.destroyed ++ [(id, s.started)] } s.started recipient ↔
      Expected s s.started recipient ∧ recipient ≠ .subscriber id := by
  constructor
  · rintro ⟨there, ends⟩
    refine ⟨⟨there, fun other ending isOther member => ends other ending isOther (List.mem_append_left _ member)⟩, ?_⟩
    intro isId
    exact Nat.lt_irrefl _ (ends id s.started isId (List.mem_append_right _ (List.mem_singleton.mpr rfl)))
  · rintro ⟨⟨there, ends⟩, differ⟩
    refine ⟨there, fun other ending isOther member => ?_⟩
    obtain old | new := List.mem_append.mp member
    · exact ends other ending isOther old
    · cases List.mem_singleton.mp new
      exact absurd isOther differ

section Destroy
variable {id : Nat} {subscribers newSubscribers oldSubscribers : List Nat}

theorem destroy_tracked (holds : Tracked s) (quiet : ∀ notification ids, s.phase ≠ .releasing notification ids)
    (isKnown : id < s.nextSubscriptionId) (fewer : (subscribers ++ newSubscribers).Sublist (s.subscribers ++ s.newSubscribers))
    (present : ∀ other, (other ∈ subscribers ∧ other ∉ oldSubscribers ∨ other ∈ newSubscribers) ↔
      Present s (.subscriber other) ∧ other ≠ id)
    (olds : ∀ other ∈ oldSubscribers, other = id ∨ other ∈ s.oldSubscribers)
    (settled : s.phase = .outside → newSubscribers = [] ∧ oldSubscribers = []) :
    Tracked { s with
      subscribers, newSubscribers, oldSubscribers, subscriptions := s.subscriptions.erase id,
      destroyed := s.destroyed ++ [(id, s.started)], events := s.events ++ [.destroyed id] } where
  heard k group there := by
    obtain ⟨distinct, exact⟩ := holds.heard k group there
    have earlier : k < s.started := lt_started there
    exact ⟨distinct, fun other => (exact other).trans (expected_destroy earlier).symm⟩
  present other := by
    refine Iff.trans ?_ (expected_destroy_now (s := s)).symm
    rw [← holds.present other]
    cases other with
    | observer number => simp [Present]
    | subscriber other => simpa [Present] using present other
  observersNodup := holds.observersNodup
  subscribersNodup := holds.subscribersNodup.sublist fewer
  observersKnown := holds.observersKnown
  subscribersKnown other member := holds.subscribersKnown other (fewer.subset member)
  since := holds.since
  endings entry member := by
    obtain old | new := List.mem_append.mp member
    · exact holds.endings entry old
    · rw [List.mem_singleton.mp new]
      exact ⟨Nat.le_refl _, isKnown⟩
  olds other member := by
    obtain rfl | old := olds other member
    · exact ⟨s.started, List.mem_append_right _ (List.mem_singleton.mpr rfl)⟩
    · obtain ⟨ending, isDestroyed⟩ := holds.olds other old
      exact ⟨ending, List.mem_append_left _ isDestroyed⟩
  handles other member := holds.handles other (List.mem_of_mem_erase member)
  settled outside := ⟨(holds.settled outside).1, settled outside⟩
  releasing notification ids releasing := absurd releasing (quiet notification ids)
  finished := holds.finished

end Destroy

theorem destroySubscription_tracked (holds : Tracked s)
    (quiet : ∀ notification ids, s.phase ≠ .releasing notification ids) (id : Nat) :
    Yields (· = .undefined) Tracked (s.destroySubscription id) := by
  have distinct := List.nodup_append'.mp holds.subscribersNodup
  unfold destroySubscription
  split
  · rename_i isHandle
    have isKnown := holds.handles id isHandle
    unfold unsubscribe
    split
    · rename_i outside
      have settled : s.newObservers = [] ∧ s.newSubscribers = [] ∧ s.oldSubscribers = [] := holds.settled outside
      refine destroy_tracked holds quiet isKnown (List.erase_sublist.append_right _) ?_ (fun _ member => .inr member)
        (fun _ => settled.2)
      intro other
      simp [Present, settled.2.1, settled.2.2, distinct.1.mem_erase_iff, and_comm]
    · rename_i calling
      split
      · rename_i isNew
        refine destroy_tracked holds quiet isKnown (List.erase_sublist.append_left _) ?_ (fun _ member => .inr member) ?_
        · intro other
          change _ ∨ other ∈ s.newSubscribers.erase id ↔ _
          rw [distinct.2.1.mem_erase_iff, Present]
          constructor
          · rintro (⟨old, kept⟩ | ⟨differ, new⟩)
            · refine ⟨.inl ⟨old, kept⟩, ?_⟩
              rintro rfl
              exact distinct.2.2 old isNew
            · exact ⟨.inr new, differ⟩
          · rintro ⟨old | new, differ⟩
            · exact .inl old
            · exact .inr ⟨differ, new⟩
        · intro outside
          cases calling.symm.trans outside
      · rename_i notNew
        refine destroy_tracked holds quiet isKnown (List.Sublist.refl _) ?_ ?_ ?_
        · intro other
          rw [List.mem_append, List.mem_singleton, not_or, Present]
          constructor
          · rintro (⟨old, kept, differ⟩ | new)
            · exact ⟨.inl ⟨old, kept⟩, differ⟩
            · refine ⟨.inr new, ?_⟩
              rintro rfl
              exact notNew new
          · rintro ⟨⟨old, kept⟩ | new, differ⟩
            · exact .inl ⟨old, kept, differ⟩
            · exact .inr new
        · intro other member
          exact (List.mem_append.mp member).symm.imp_left List.mem_singleton.mp
        · intro outside
          cases calling.symm.trans outside
    · rename_i releasing
      exact absurd releasing (quiet _ _)
  · simp [Yields]

/-! ## The end of a notification -/

theorem foldl_insert_perm (added subscribers : List Nat) :
    (added.foldl (fun subscribers id => subscribers.orderedInsert (· ≤ ·) id) subscribers).Perm (subscribers ++ added) := by
  induction added generalizing subscribers with
  | nil => rw [List.append_nil]; rfl
  | cons id added ih =>
      refine (ih _).trans ?_
      refine ((List.perm_orderedInsert _ id subscribers).append_right added).trans ?_
      exact List.perm_middle.symm

theorem addNew_tracked (holds : Tracked s) {notification : Notification N} (calling : s.phase = .calling notification) :
    Tracked s.addNew := by
  have same := foldl_insert_perm s.newSubscribers s.subscribers
  refine { holds with
    present := ?_
    observersNodup := ?_
    subscribersNodup := ?_
    observersKnown := ?_
    subscribersKnown := ?_
    settled := fun outside => by cases calling.symm.trans outside
    releasing := fun _ _ releasing => by cases calling.symm.trans releasing }
  · intro recipient
    refine Iff.trans ?_ (holds.present recipient)
    cases recipient with
    | observer number => simp [Present, addNew]
    | subscriber id =>
        rw [present_subscriber holds.new_not_old, ← same.mem_iff]
        simp [Present, addNew]
  · simpa [addNew] using holds.observersNodup
  · simpa [addNew] using same.nodup_iff.mpr holds.subscribersNodup
  · simpa [addNew] using holds.observersKnown
  · intro id member
    refine holds.subscribersKnown id (same.mem_iff.mp ?_)
    simpa [addNew] using member

section Rephase
variable {phase : Phase N} {past : List (Notification N)} {subscribers oldSubscribers : List Nat} {events : List Event}

theorem rephase_tracked (holds : Tracked s) (same : (past ++ phase.current).map audience = audiences s)
    (fewer : subscribers.Sublist s.subscribers) (olds : oldSubscribers ⊆ s.oldSubscribers)
    (kept : ∀ id, id ∈ subscribers ∧ id ∉ oldSubscribers ↔ id ∈ s.subscribers ∧ id ∉ s.oldSubscribers)
    (settled : phase = .outside → s.newObservers = [] ∧ s.newSubscribers = [] ∧ oldSubscribers = [])
    (releasing : ∀ notification ids, phase = .releasing notification ids → s.newObservers = [] ∧ s.newSubscribers = [] ∧
      notification.due = [] ∧ ids ⊆ oldSubscribers ∧ ∀ id ∈ oldSubscribers, id ∈ ids ∨ id ∉ subscribers)
    (finished : ∀ notification ∈ past, notification.due = []) :
    Tracked { s with phase, past, subscribers, oldSubscribers, events } := by
  have sameStarted : started { s with phase, past, subscribers, oldSubscribers, events } = s.started := by
    rw [← length_audiences, ← length_audiences]
    exact congrArg List.length same
  refine { holds with
    heard := fun k group there => holds.heard k group (same ▸ there)
    present := ?_
    subscribersNodup := holds.subscribersNodup.sublist (fewer.append_right _)
    subscribersKnown := fun id member => holds.subscribersKnown id ((fewer.append_right _).subset member)
    since := fun entry member => sameStarted ▸ holds.since entry member
    endings := fun entry member => sameStarted ▸ holds.endings entry member
    olds := fun id member => holds.olds id (olds member)
    settled := settled
    releasing := releasing
    finished := finished }
  intro recipient
  rw [sameStarted]
  refine Iff.trans ?_ (holds.present recipient)
  cases recipient with
  | observer number => exact Iff.rfl
  | subscriber id => exact or_congr_left (kept id)

end Rephase

theorem release_tracked (holds : Tracked s) {notification : Notification N} {ids : List Nat}
    (current : s.phase.current = [notification]) (added : s.newObservers = [] ∧ s.newSubscribers = [])
    (called : notification.due = []) (within : ids ⊆ s.oldSubscribers)
    (gone : ∀ id ∈ s.oldSubscribers, id ∈ ids ∨ id ∉ s.subscribers) : Tracked (release notification ids s) := by
  cases ids with
  | nil =>
      have kept : ∀ id, id ∈ s.subscribers ∧ id ∉ [] ↔ id ∈ s.subscribers ∧ id ∉ s.oldSubscribers := by
        intro id
        refine and_congr_right fun member => ⟨fun _ old => ?_, fun _ => List.not_mem_nil⟩
        exact (gone id old).elim List.not_mem_nil (fun notThere => notThere member)
      refine rephase_tracked holds ?_ (List.Sublist.refl _) (List.nil_subset _) kept
        (fun _ => ⟨added.1, added.2, rfl⟩) (fun _ _ releasing => by cases releasing) ?_
      · rw [audiences, notifications, current]
        simp [Phase.current]
      · intro other member
        obtain old | new := List.mem_append.mp member
        · exact holds.finished other old
        · rw [List.mem_singleton.mp new]
          exact called
  | cons id ids =>
      have distinct := (List.nodup_append'.mp holds.subscribersNodup).1
      have isOld := within List.mem_cons_self
      refine rephase_tracked holds ?_ List.erase_sublist (List.Subset.refl _) ?_ (fun outside => by cases outside) ?_
        holds.finished
      · rw [audiences, notifications, current]
        rfl
      · intro other
        rw [distinct.mem_erase_iff]
        constructor
        · rintro ⟨⟨-, member⟩, kept⟩
          exact ⟨member, kept⟩
        · rintro ⟨member, kept⟩
          refine ⟨⟨?_, member⟩, kept⟩
          rintro rfl
          exact kept isOld
      · rintro _ _ ⟨⟩
        refine ⟨added.1, added.2, called, fun other member => within (List.mem_cons_of_mem _ member), ?_⟩
        intro other old
        rw [distinct.mem_erase_iff]
        obtain first | notThere := gone other old
        · obtain rfl | later := List.mem_cons.mp first
          · exact .inr fun there => there.1 rfl
          · exact .inl later
        · exact .inr fun there => notThere there.2

theorem advance_tracked (holds : Tracked s) : Tracked s.advance := by
  unfold advance
  split
  · exact holds
  · rename_i value called recipient due calling
    refine rephase_tracked holds ?_ (List.Sublist.refl _) (List.Subset.refl _) (fun _ => Iff.rfl)
      (fun outside => by cases outside) (fun _ _ releasing => by cases releasing) holds.finished
    rw [audiences, notifications, calling]
    simp [Phase.current, audience]
  · rename_i value called calling
    have tracked := addNew_tracked holds calling
    refine release_tracked tracked ?_ ⟨rfl, rfl⟩ rfl (List.Subset.refl _) (fun _ member => .inl member)
    change s.phase.current = _
    rw [calling]
    rfl
  · rename_i notification ids releasing
    obtain ⟨noObservers, noSubscribers, called, within, gone⟩ := holds.releasing _ _ releasing
    refine release_tracked holds ?_ ⟨noObservers, noSubscribers⟩ called within gone
    rw [releasing]
    rfl

/-! ## The start of a notification -/

theorem expected_succ (holds : Tracked s) (recipient : Recipient) :
    Expected s (s.started + 1) recipient ↔ Expected s s.started recipient := by
  constructor
  · rintro ⟨⟨since, member, -⟩, ends⟩
    refine ⟨⟨since, member, (holds.since _ member).1⟩, fun id ending isId isDestroyed => ?_⟩
    exact Nat.lt_of_succ_lt (ends id ending isId isDestroyed)
  · rintro ⟨⟨since, member, before⟩, ends⟩
    refine ⟨⟨since, member, Nat.le_succ_of_le before⟩, fun id ending isId isDestroyed => ?_⟩
    have later := ends id ending isId isDestroyed
    have bound := (holds.endings _ isDestroyed).1
    exact absurd bound (Nat.not_le_of_lt later)

theorem recipients_nodup (holds : Tracked s) : s.recipients.Nodup := by
  refine List.nodup_append'.mpr ⟨?_, ?_, ?_⟩
  · exact (List.nodup_append'.mp holds.observersNodup).1.map fun _ _ equal => Recipient.observer.inj equal
  · exact (List.nodup_append'.mp holds.subscribersNodup).1.map fun _ _ equal => Recipient.subscriber.inj equal
  · intro recipient isObserver isSubscriber
    obtain ⟨number, -, rfl⟩ := List.mem_map.mp isObserver
    obtain ⟨id, -, equal⟩ := List.mem_map.mp isSubscriber
    cases equal

theorem mem_recipients (holds : Tracked s) (outside : s.phase = .outside) (recipient : Recipient) :
    recipient ∈ s.recipients ↔ Present s recipient := by
  obtain ⟨noObservers, noSubscribers, noOld⟩ := holds.settled outside
  cases recipient with
  | observer number => simp [recipients, Present, noObservers]
  | subscriber id => simp [recipients, Present, noSubscribers, noOld]

theorem calling_tracked (holds : Tracked s) (outside : s.phase = .outside) (value : N) :
    Tracked { s with phase := .calling { value, due := s.recipients } } := by
  have before : audiences s = s.past.map audience := by simp [audiences, notifications, outside, Phase.current]
  have startedNow : started { s with phase := .calling { value, due := s.recipients } } = s.started + 1 := by
    simp [started, notifications, outside, Phase.current]
  have now : audiences { s with phase := .calling { value, due := s.recipients } } = audiences s ++ [s.recipients] := by
    rw [before]
    simp [audiences, notifications, Phase.current, audience]
  refine { holds with
    heard := ?_
    present := ?_
    since := ?_
    endings := ?_
    settled := fun outside => by cases outside
    releasing := fun _ _ releasing => by cases releasing }
  · intro k group there
    rw [now, List.getElem?_append] at there
    split at there
    · exact holds.heard k group there
    · rename_i notEarlier
      obtain ⟨bound, isLast⟩ := List.getElem?_eq_some_iff.mp there
      have atEnd : k = s.started := by
        rw [length_audiences] at notEarlier bound
        rw [List.length_singleton] at bound
        omega
      rw [List.getElem_singleton] at isLast
      subst atEnd isLast
      refine ⟨recipients_nodup holds, fun recipient => ?_⟩
      exact (mem_recipients holds outside recipient).trans (holds.present recipient)
  · intro recipient
    rw [startedNow]
    refine (holds.present recipient).trans ?_
    exact (expected_succ holds recipient).symm
  · intro entry member
    rw [startedNow]
    exact ⟨Nat.le_succ_of_le (holds.since entry member).1, (holds.since entry member).2⟩
  · intro entry member
    rw [startedNow]
    exact ⟨Nat.le_succ_of_le (holds.endings entry member).1, (holds.endings entry member).2⟩

theorem forEachObserver_tracked (holds : Tracked s) (value : N) :
    Yields (· = .undefined) Tracked (s.forEachObserver value) := by
  unfold forEachObserver
  split
  · simp [Yields]
  · rename_i outside
    exact advance_tracked (calling_tracked holds (holds.outside_of (by simpa using outside)).1 value)

theorem returns_tracked (holds : Tracked s) : Yields (· = .undefined) Tracked s.returns := by
  unfold returns
  split
  · exact advance_tracked holds
  · simp [Yields]

/-! ## Runs -/

def isReleasing : Phase N → Bool
  | .outside => false
  | .calling _ => false
  | .releasing _ _ => true

/-- The destructors that the end of a notification runs leave the observable alone. -/
def Unreleased (s : Observable N) : Op N → Prop
  | .subscribe => isReleasing s.phase = false
  | .observe => isReleasing s.phase = false
  | .observeInline => isReleasing s.phase = false
  | .destroySubscription _ => isReleasing s.phase = false
  | .forEachObserver _ => True
  | .returns => True

instance (s : Observable N) : (op : Op N) → Decidable (Unreleased s op)
  | .subscribe => inferInstanceAs (Decidable (isReleasing s.phase = false))
  | .observe => inferInstanceAs (Decidable (isReleasing s.phase = false))
  | .observeInline => inferInstanceAs (Decidable (isReleasing s.phase = false))
  | .destroySubscription _ => inferInstanceAs (Decidable (isReleasing s.phase = false))
  | .forEachObserver _ => isTrue trivial
  | .returns => isTrue trivial

def due (s : Observable N) : List Recipient := s.phase.current.flatMap (·.due)

/-- A subscription is not destroyed while its observer is still to be called. -/
def NotDue (s : Observable N) : Op N → Prop
  | .subscribe => True
  | .observe => True
  | .observeInline => True
  | .destroySubscription id => .subscriber id ∉ due s
  | .forEachObserver _ => True
  | .returns => True

instance (s : Observable N) : (op : Op N) → Decidable (NotDue s op)
  | .subscribe | .observe | .observeInline => isTrue trivial
  | .destroySubscription id => inferInstanceAs (Decidable (.subscriber id ∉ due s))
  | .forEachObserver _ => isTrue trivial
  | .returns => isTrue trivial

theorem not_releasing (unreleased : isReleasing s.phase = false) (notification : Notification N) (ids : List Nat) :
    s.phase ≠ .releasing notification ids := by
  intro releasing
  rw [releasing] at unreleased
  cases unreleased

theorem step_tracked (holds : Tracked s) (op : Op N) (permitted : Unreleased s op) :
    Yields (· = .undefined) Tracked (step s op) := by
  cases op with
  | subscribe => exact subscribeImpl_tracked holds (not_releasing permitted) false
  | observe => exact subscribeImpl_tracked holds (not_releasing permitted) true
  | observeInline => exact observeInline_tracked holds (not_releasing permitted)
  | destroySubscription id => exact destroySubscription_tracked holds (not_releasing permitted) id
  | forEachObserver value => exact forEachObserver_tracked holds value
  | returns => exact returns_tracked holds

def Silent (events : List Event) : Prop :=
  events.Pairwise fun first later => ∀ id, first = .destroyed id → later ≠ .called (.subscriber id)

structure Hushed (s : Observable N) : Prop where
  silent : Silent s.events
  recorded : ∀ id, .destroyed id ∈ s.events → ∃ ending, (id, ending) ∈ s.destroyed
  notDue : ∀ id, .destroyed id ∈ s.events → .subscriber id ∉ due s

theorem Hushed.of_due (holds : Hushed s) (events : s'.events = s.events) (destroyed : s'.destroyed = s.destroyed)
    (fewer : due s' ⊆ due s) : Hushed s' where
  silent := events ▸ holds.silent
  recorded id member := destroyed ▸ holds.recorded id (events ▸ member)
  notDue id member inside := holds.notDue id (events ▸ member) (fewer inside)

theorem release_hushed (holds : Hushed s) {notification : Notification N} (within : notification.due ⊆ due s)
    (ids : List Nat) : Hushed (release notification ids s) := by
  cases ids with
  | nil => exact holds.of_due rfl rfl (List.nil_subset _)
  | cons id ids => exact holds.of_due rfl rfl (by simpa [due, release, Phase.current] using within)

theorem Silent.append_called {events : List Event} {recipient : Recipient} (silent : Silent events)
    (notDestroyed : ∀ id, .destroyed id ∈ events → recipient ≠ .subscriber id) :
    Silent (events ++ [.called recipient]) := by
  refine List.pairwise_append.mpr ⟨silent, List.pairwise_singleton .., ?_⟩
  rintro first member later isLast id rfl equal
  rw [List.mem_singleton.mp isLast] at equal
  exact notDestroyed id member (Event.called.inj equal)

theorem Silent.append_destroyed {events : List Event} (silent : Silent events) (id : Nat) :
    Silent (events ++ [.destroyed id]) := by
  refine List.pairwise_append.mpr ⟨silent, List.pairwise_singleton .., ?_⟩
  rintro first - later isLast other - equal
  rw [List.mem_singleton.mp isLast] at equal
  cases equal

theorem advance_hushed (holds : Hushed s) : Hushed s.advance := by
  unfold advance
  split
  · exact holds
  · rename_i value called recipient rest calling
    have inside : due s = recipient :: rest := by simp [due, calling, Phase.current]
    have before : ∀ id, .destroyed id ∈ s.events ++ [.called recipient] → .destroyed id ∈ s.events := by simp
    refine ⟨holds.silent.append_called ?_, fun id member => holds.recorded id (before id member), ?_⟩
    · rintro id member rfl
      exact holds.notDue id member (by simp [inside])
    · intro id member later
      refine holds.notDue id (before id member) ?_
      rw [inside]
      exact List.mem_cons_of_mem _ (by simpa [due, Phase.current] using later)
  · have added : Hushed s.addNew := holds.of_due rfl rfl (List.Subset.refl _)
    exact release_hushed added (List.nil_subset _) _
  · rename_i notification ids releasing
    exact release_hushed holds (by simp [due, releasing, Phase.current]) ids

theorem subscribeImpl_hushed (holds : Hushed s) (indefinite : Bool) :
    Yields (fun _ => False) Hushed (s.subscribeImpl indefinite) := by
  unfold subscribeImpl
  dsimp only
  split
  · exact not_false
  · cases inside : s.phase.inCallback with
    | true =>
        simp only [register, inside, if_true]
        exact holds.of_due rfl rfl (List.Subset.refl _)
    | false =>
        simp only [register, inside, Bool.false_eq_true, if_false]
        exact holds.of_due rfl rfl (List.Subset.refl _)

theorem observeInline_hushed (holds : Hushed s) : Hushed s.observeInline := by
  unfold observeInline
  dsimp only
  split
  · exact holds.of_due rfl rfl (List.Subset.refl _)
  · exact holds.of_due rfl rfl (List.Subset.refl _)

theorem destroySubscription_hushed (holds : Hushed s) {id : Nat} (notDue : .subscriber id ∉ due s) :
    Yields (fun _ => False) Hushed (s.destroySubscription id) := by
  have noted : Hushed { s with
      subscriptions := s.subscriptions.erase id, destroyed := s.destroyed ++ [(id, s.started)],
      events := s.events ++ [.destroyed id] } := by
    refine ⟨holds.silent.append_destroyed id, ?_, ?_⟩
    · intro other member
      obtain old | new := List.mem_append.mp member
      · obtain ⟨ending, isDestroyed⟩ := holds.recorded other old
        exact ⟨ending, List.mem_append_left _ isDestroyed⟩
      · cases List.mem_singleton.mp new
        exact ⟨s.started, List.mem_append_right _ (List.mem_singleton.mpr rfl)⟩
    · intro other member
      obtain old | new := List.mem_append.mp member
      · exact holds.notDue other old
      · cases List.mem_singleton.mp new
        exact notDue
  unfold destroySubscription
  split
  · unfold unsubscribe
    split
    · exact noted.of_due rfl rfl (List.Subset.refl _)
    · split
      · exact noted.of_due rfl rfl (List.Subset.refl _)
      · exact noted.of_due rfl rfl (List.Subset.refl _)
    · split
      · exact noted.of_due rfl rfl (List.Subset.refl _)
      · exact not_false
  · exact not_false

theorem forEachObserver_hushed (tracked : Tracked s) (holds : Hushed s) (value : N) :
    Yields (fun _ => False) Hushed (s.forEachObserver value) := by
  unfold forEachObserver
  split
  · exact not_false
  · rename_i notInside
    have outside : s.phase = .outside := (tracked.outside_of (by simpa using notInside)).1
    refine advance_hushed ⟨holds.silent, holds.recorded, fun id member inside => ?_⟩
    obtain ⟨ending, isDestroyed⟩ := holds.recorded id member
    have isRecipient : .subscriber id ∈ s.recipients := by simpa [due, Phase.current] using inside
    exact tracked.not_destroyed ((mem_recipients tracked outside _).mp isRecipient) rfl isDestroyed

theorem returns_hushed (holds : Hushed s) : Yields (fun _ => False) Hushed s.returns := by
  unfold returns
  split
  · exact advance_hushed holds
  · exact not_false

theorem step_hushed (tracked : Tracked s) (holds : Hushed s) (op : Op N) (permitted : NotDue s op) :
    Yields (fun _ => False) Hushed (step s op) := by
  cases op with
  | subscribe => exact subscribeImpl_hushed holds false
  | observe => exact subscribeImpl_hushed holds true
  | observeInline => exact observeInline_hushed holds
  | destroySubscription id => exact destroySubscription_hushed holds permitted
  | forEachObserver value => exact forEachObserver_hushed tracked holds value
  | returns => exact returns_hushed holds

/-- Each notification reaches exactly those who were there when it started, each once; between notifications no
destroyed subscription is registered, and nothing is pending. -/
structure Faithful (s : Observable N) : Prop where
  reached : ∀ k notification, s.notifications[k]? = some notification →
    (audience notification).Nodup ∧ ∀ recipient, recipient ∈ audience notification ↔ Expected s k recipient
  finished : ∀ notification ∈ s.past, notification.due = []
  unregistered : s.phase = .outside → ∀ id ending, (id, ending) ∈ s.destroyed →
    id ∉ s.subscribers ∧ id ∉ s.newSubscribers
  nothingPending : s.phase = .outside → s.newObservers = [] ∧ s.newSubscribers = [] ∧ s.oldSubscribers = []

theorem Tracked.faithful (holds : Tracked s) : Faithful s where
  reached k notification there := by
    refine holds.heard k (audience notification) ?_
    rw [audiences, List.getElem?_map, there]
    rfl
  finished := holds.finished
  unregistered outside id ending isDestroyed := by
    obtain ⟨-, noSubscribers, noOld⟩ := holds.settled outside
    refine ⟨fun member => ?_, fun member => ?_⟩
    · have isPresent : Present s (.subscriber id) := .inl ⟨member, by simp [noOld]⟩
      exact holds.not_destroyed isPresent rfl isDestroyed
    · rw [noSubscribers] at member
      cases member
  nothingPending := holds.settled

/-- If the destructors run by the end of a notification leave the observable alone, every notification is faithful;
if besides no subscription is destroyed whose observer the current notification has still to call, no observer
hears of anything after its subscription is destroyed. -/
theorem notifications_faithful (ops : List (Op N)) (permitted : Along step Unreleased ({} : Observable N) ops) :
    Yields (· = .undefined) Faithful (run ({} : Observable N) ops) ∧
    (Along step NotDue ({} : Observable N) ops →
      Yields (· = .undefined) (fun s => Silent s.events) (run ({} : Observable N) ops)) := by
  constructor
  · exact (yields_run (fun _ op holds allowed => step_tracked holds op allowed) tracked_start permitted).imp
      fun _ holds => holds.faithful
  · intro notDue
    have start : Hushed ({} : Observable N) := ⟨List.Pairwise.nil, by simp, by simp⟩
    have kept : ∀ (s : Observable N) op, Tracked s ∧ Hushed s → Unreleased s op ∧ NotDue s op →
        Yields (fun e => e = .undefined ∨ False) (fun s => Tracked s ∧ Hushed s) (step s op) :=
      fun s op holds allowed => (step_tracked holds.1 op allowed.1).and (step_hushed holds.1 holds.2 op allowed.2)
    exact ((yields_run kept ⟨tracked_start, start⟩ (permitted.and notDue)).imp fun _ holds => holds.2.silent).fewer
      fun _ => Or.inl

-- an observer subscribes another and ends its own subscription, and is released
theorem notifications_faithful_nested :
    Along step Unreleased ({} : Observable Unit)
      [.subscribe, .observe, .forEachObserver (), .subscribe, .destroySubscription 1, .returns, .returns, .returns,
        .forEachObserver (), .returns, .destroySubscription 3, .returns] ∧
    Yields (· = .undefined) Faithful (run ({} : Observable Unit)
      [.subscribe, .observe, .forEachObserver (), .subscribe, .destroySubscription 1, .returns, .returns, .returns,
        .forEachObserver (), .returns, .destroySubscription 3, .returns]) ∧
    Yields (· = .undefined) (fun s => Silent s.events) (run ({} : Observable Unit)
      [.subscribe, .observe, .forEachObserver (), .subscribe, .destroySubscription 1, .returns, .returns, .returns,
        .forEachObserver (), .returns, .destroySubscription 3, .returns]) :=
  ⟨by decide, (notifications_faithful _ (by decide)).1, (notifications_faithful _ (by decide)).2 (by decide)⟩

/-- The first callback destroys the subscription of the second observer, which is called all the same. The destructor
of an observer that is released at the end of a notification subscribes another: it is left pending, and registered
by the next notification though its subscription is destroyed by then. The destructor destroys a subscription: the
list that is walked grows. -/
theorem notifications_not_faithful :
    (∃ s, run ({} : Observable Unit)
        [.subscribe, .subscribe, .forEachObserver (), .destroySubscription 2, .returns] = .ok s ∧ ¬ Silent s.events) ∧
    (∃ s, run ({} : Observable Unit)
        [.subscribe, .forEachObserver (), .destroySubscription 1, .returns, .subscribe, .returns] = .ok s ∧
      s.phase = .outside ∧ s.newSubscribers = [2] ∧ ¬ Faithful s) ∧
    (∃ s, run ({} : Observable Unit)
        [.subscribe, .forEachObserver (), .destroySubscription 1, .returns, .subscribe, .returns,
          .destroySubscription 2, .forEachObserver ()] = .ok s ∧
      s.phase = .outside ∧ (2, 1) ∈ s.destroyed ∧ s.subscribers = [2]) ∧
    run ({} : Observable Unit)
      [.subscribe, .subscribe, .forEachObserver (), .destroySubscription 1, .returns, .returns,
        .destroySubscription 2] = .error .undefined := by
  refine ⟨⟨_, rfl, ?_⟩, ⟨_, rfl, rfl, rfl, ?_⟩, ⟨_, rfl, rfl, ?_, rfl⟩, rfl⟩
  · intro silent
    have later := (List.pairwise_cons.mp (List.pairwise_cons.mp silent).2).1
    exact later _ List.mem_cons_self 2 rfl rfl
  · intro faithful
    exact absurd (faithful.nothingPending rfl).2.1 (by decide)
  · decide

end Wangle.Proof.Rx
