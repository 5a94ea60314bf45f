import Wangle.Channel.BroadcastHandler
import Mathlib.Data.List.Nodup

/-!
# What a `BroadcastHandler` promises its subscribers
-/

namespace Wangle.Proof.Channel
open Wangle.Channel BroadcastHandler
open Wangle.Transition hiding run

variable {T X S : Type} {h h' : BroadcastHandler T X S} {id : SubscriptionId}

def ids (h : BroadcastHandler T X S) : List SubscriptionId := h.subscribers.map Prod.fst

def due (h : BroadcastHandler T X S) : List SubscriptionId :=
  (h.round.map fun round => round.subscribers.map Prod.fst).getD []

def ending (h : BroadcastHandler T X S) : Bool := h.round.any (·.event.isTerminal)

def endsSubscription (id : SubscriptionId) : Signal T X → Bool
  | .callback subscriptionId event => subscriptionId = id && event.isTerminal
  | .subscribed _ => false
  | .unsubscribed _ => false
  | .close => false

def terminals (id : SubscriptionId) (h : BroadcastHandler T X S) : Nat := h.signals.countP (endsSubscription id)

def isClose : Signal T X → Bool
  | .close => true
  | .subscribed _ => false
  | .unsubscribed _ => false
  | .callback .. => false

def closes (h : BroadcastHandler T X S) : Nat := h.signals.countP isClose

def about : Signal T X → Option SubscriptionId
  | .subscribed id => some id
  | .unsubscribed id => some id
  | .callback id _ => some id
  | .close => none

def Silent (signals : List (Signal T X)) : Prop :=
  signals.Pairwise fun first later => ∀ id event, first = .unsubscribed id → later ≠ .callback id event

/-- No subscription is cancelled that the round has still to call, none begins while they end and one is left until then,
subscriptions end only if there are any, and their ids are not used up. -/
def Respects (h : BroadcastHandler T X S) : Op T X S → Prop
  | .subscribe _ => ending h = false ∧ h.nextSubscriptionId + 1 < UInt64.size
  | .unsubscribe id => id ∉ due h ∧ (ending h = true → ∃ other ∈ ids h, other ≠ id)
  | .read _ => True
  | .readEOF => ids h ≠ []
  | .readException _ => ids h ≠ []
  | .callbackReturns => True

instance (h : BroadcastHandler T X S) : (op : Op T X S) → Decidable (Respects h op)
  | .subscribe _ => inferInstanceAs (Decidable (ending h = false ∧ h.nextSubscriptionId + 1 < UInt64.size))
  | .unsubscribe id => inferInstanceAs (Decidable (id ∉ due h ∧ (ending h = true → ∃ other ∈ ids h, other ≠ id)))
  | .read _ => isTrue trivial
  | .readEOF => inferInstanceAs (Decidable (ids h ≠ []))
  | .readException _ => inferInstanceAs (Decidable (ids h ≠ []))
  | .callbackReturns => isTrue trivial

structure Subscriptions (h : BroadcastHandler T X S) : Prop where
  distinct : (ids h).Nodup
  known : ∀ id ∈ ids h, id < h.nextSubscriptionId
  dueOnce : (due h).Nodup
  dueIds : ∀ id ∈ due h, id ∈ ids h
  alive : ending h = true → ids h ≠ []
  gone : ∀ id, .unsubscribed id ∈ h.signals → id ∉ ids h
  mentioned : ∀ signal ∈ h.signals, ∀ id, about signal = some id → id < h.nextSubscriptionId
  silent : Silent h.signals
  subscribed : ∀ id ∈ ids h, terminals id h = if ending h ∧ id ∉ due h then 1 else 0
  atMostOne : ∀ id, terminals id h ≤ 1
  dropped : ∀ id < h.nextSubscriptionId, id ∉ ids h → .unsubscribed id ∉ h.signals → terminals id h = 1

theorem silent_concat {signals : List (Signal T X)} {new : Signal T X} (silent : Silent signals)
    (allowed : ∀ id event, new = .callback id event → .unsubscribed id ∉ signals) : Silent (signals ++ [new]) := by
  refine List.pairwise_append.mpr ⟨silent, List.pairwise_singleton _ _, fun first member later isLast id event isFirst isNew => ?_⟩
  cases List.mem_singleton.mp isLast
  exact allowed id event isNew (isFirst ▸ member)

theorem terminals_concat (id : SubscriptionId) (signals : List (Signal T X)) (new : Signal T X) :
    (signals ++ [new]).countP (endsSubscription id) =
      signals.countP (endsSubscription id) + if endsSubscription id new then 1 else 0 := by
  rw [List.countP_append, List.countP_singleton]

theorem unsubscribed_of_concat {signals : List (Signal T X)} {new : Signal T X} (other : ∀ id, new ≠ .unsubscribed id)
    (member : .unsubscribed id ∈ signals ++ [new]) : .unsubscribed id ∈ signals := by
  rcases List.mem_append.mp member with old | isNew
  · exact old
  · exact absurd (List.mem_singleton.mp isNew).symm (other id)

theorem mentioned_concat {signals : List (Signal T X)} {new : Signal T X} {bound : Nat}
    (old : ∀ signal ∈ signals, ∀ id, about signal = some id → id < bound) (known : ∀ id, about new = some id → id < bound) :
    ∀ signal ∈ signals ++ [new], ∀ id, about signal = some id → id < bound := by
  intro signal member
  rcases List.mem_append.mp member with before | isNew
  · exact old signal before
  · rw [List.mem_singleton.mp isNew]
    exact known

theorem due_of_round {round : Round T X S} (isRound : h.round = some round) : due h = round.subscribers.map Prod.fst := by
  rw [due, isRound]
  rfl

theorem ending_of_round {round : Round T X S} (isRound : h.round = some round) : ending h = round.event.isTerminal := by
  rw [ending, isRound]
  rfl

theorem isEmpty_of_ids (nonempty : ids h ≠ []) : h.subscribers.isEmpty = false :=
  List.isEmpty_eq_false_iff.mpr fun isEmpty => nonempty (List.map_eq_nil_iff.mpr isEmpty)

theorem setSubscriber_of_lt {subscribers : List (SubscriptionId × S)} {id : SubscriptionId}
    (known : ∀ entry ∈ subscribers, entry.1 < id) (subscriber : S) :
    setSubscriber id subscriber subscribers = subscribers ++ [(id, subscriber)] := by
  rw [setSubscriber, List.filter_eq_self.mpr fun entry member => decide_eq_true (known entry member),
    List.filter_eq_nil_iff.mpr fun entry member => by simpa using Nat.le_of_lt (known entry member)]

theorem forEachSubscriber_begin (h : BroadcastHandler T X S) (round : Round T X S) (begun : Option (Round T X S)) :
    { h with round := begun }.forEachSubscriber round = h.forEachSubscriber round := by
  obtain ⟨event, subscribers⟩ := round
  cases subscribers with
  | nil => rfl
  | cons entry subscribers => rfl

namespace Subscriptions

theorem ids_subscribe (kept : Subscriptions h) (subscriber : S) :
    ids (h.subscribe subscriber) = ids h ++ [h.nextSubscriptionId] := by
  have known : ∀ entry ∈ h.subscribers, entry.1 < h.nextSubscriptionId :=
    fun entry member => kept.known entry.1 (List.mem_map_of_mem member)
  rw [ids, BroadcastHandler.subscribe, setSubscriber_of_lt known, List.map_append]
  rfl

theorem terminals_unknown (kept : Subscriptions h) (unknown : h.nextSubscriptionId ≤ id) : terminals id h = 0 := by
  refine List.countP_eq_zero.mpr fun signal member ends => ?_
  cases signal with
  | callback subscriptionId event =>
      rw [endsSubscription, Bool.and_eq_true, decide_eq_true_iff] at ends
      exact Nat.not_lt_of_le unknown (kept.mentioned _ member id (congrArg some ends.1))
  | subscribed => cases ends
  | unsubscribed => cases ends
  | close => cases ends

theorem subscribe (kept : Subscriptions h) (subscriber : S) (notEnding : ending h = false)
    (more : h.nextSubscriptionId + 1 < UInt64.size) : Subscriptions (h.subscribe subscriber) := by
  have isNext : (h.subscribe subscriber).nextSubscriptionId = h.nextSubscriptionId + 1 := Nat.mod_eq_of_lt more
  have isIds := kept.ids_subscribe subscriber
  have absent : h.nextSubscriptionId ∉ ids h := fun member => Nat.lt_irrefl _ (kept.known _ member)
  have sameTerminals (id : SubscriptionId) : terminals id (h.subscribe subscriber) = terminals id h :=
    (terminals_concat id h.signals _).trans (Nat.add_zero _)
  have oldSignal {id : SubscriptionId} (member : .unsubscribed id ∈ (h.subscribe subscriber).signals) :
      .unsubscribed id ∈ h.signals :=
    unsubscribed_of_concat (by simp) member
  constructor
  · rw [isIds, ← List.concat_eq_append]
    exact kept.distinct.concat absent
  · intro id member
    rw [isIds] at member
    rw [isNext]
    rcases List.mem_append.mp member with old | new
    · exact Nat.lt_succ_of_lt (kept.known id old)
    · exact Nat.lt_succ_of_le (Nat.le_of_eq (List.mem_singleton.mp new))
  · exact kept.dueOnce
  · intro id member
    rw [isIds]
    exact List.mem_append_left _ (kept.dueIds id member)
  · intro isEnding
    cases notEnding.symm.trans isEnding
  · intro id member
    rw [isIds, List.mem_append, List.mem_singleton]
    rintro (old | rfl)
    · exact kept.gone id (oldSignal member) old
    · exact Nat.lt_irrefl _ (kept.mentioned _ (oldSignal member) _ rfl)
  · rw [isNext]
    refine mentioned_concat (fun signal old id isAbout => Nat.lt_succ_of_lt (kept.mentioned signal old id isAbout)) ?_
    intro id isAbout
    cases isAbout
    exact Nat.lt_succ_self _
  · exact silent_concat kept.silent fun id event isNew => by cases isNew
  · intro id member
    rw [sameTerminals]
    rw [isIds] at member
    rcases List.mem_append.mp member with old | new
    · exact kept.subscribed id old
    · cases List.mem_singleton.mp new
      rw [kept.terminals_unknown (Nat.le_refl _), show ending (h.subscribe subscriber) = false from notEnding]
      rfl
  · intro id
    rw [sameTerminals]
    exact kept.atMostOne id
  · intro id known dropped notUnsubscribed
    rw [isIds, List.mem_append, List.mem_singleton, not_or] at dropped
    rw [isNext] at known
    rw [sameTerminals]
    refine kept.dropped id (by omega) dropped.1 fun member => notUnsubscribed (List.mem_append_left _ member)

end Subscriptions

def closing (subscribers : List (SubscriptionId × S)) : List (Signal T X) := if subscribers.isEmpty then [.close] else []

theorem closeIfIdle_eq (h : BroadcastHandler T X S) :
    h.closeIfIdle = { h with signals := h.signals ++ closing h.subscribers } := by
  unfold closeIfIdle closing
  split
  · rfl
  · rw [List.append_nil]

theorem terminals_closing (id : SubscriptionId) (subscribers : List (SubscriptionId × S)) :
    (closing subscribers : List (Signal T X)).countP (endsSubscription id) = 0 := by
  unfold closing
  split <;> rfl

theorem mem_closing {subscribers : List (SubscriptionId × S)} {signal : Signal T X} (member : signal ∈ closing subscribers) :
    signal = .close := by
  unfold closing at member
  split at member
  · exact List.mem_singleton.mp member
  · cases member

theorem silent_closing {signals : List (Signal T X)} (silent : Silent signals) (subscribers : List (SubscriptionId × S)) :
    Silent (signals ++ closing subscribers) := by
  unfold closing
  split
  · exact silent_concat silent fun id event isNew => by cases isNew
  · rwa [List.append_nil]

def withoutId (id : SubscriptionId) (h : BroadcastHandler T X S) : List (SubscriptionId × S) :=
  h.subscribers.filter (·.1 ≠ id)

theorem unsubscribe_eq (found : id ∈ ids h) : h.unsubscribe id =
    { h with
      subscribers := withoutId id h
      signals := h.signals ++ closing (withoutId id h) ++ [.unsubscribed id] } := by
  unfold unsubscribe
  rw [if_pos (show id ∈ h.subscribers.map Prod.fst from found), closeIfIdle_eq]
  rfl

theorem unsubscribe_unknown (absent : id ∉ ids h) : h.unsubscribe id = h := by
  unfold unsubscribe
  exact if_neg absent

theorem mem_withoutId {other : SubscriptionId} : other ∈ (withoutId id h).map Prod.fst ↔ other ∈ ids h ∧ other ≠ id := by
  unfold withoutId ids
  constructor
  · intro member
    obtain ⟨entry, isEntry, rfl⟩ := List.mem_map.mp member
    obtain ⟨old, ne⟩ := List.mem_filter.mp isEntry
    exact ⟨List.mem_map_of_mem old, by simpa using ne⟩
  · rintro ⟨member, ne⟩
    obtain ⟨entry, isEntry, rfl⟩ := List.mem_map.mp member
    exact List.mem_map_of_mem (List.mem_filter.mpr ⟨isEntry, by simpa using ne⟩)

namespace Subscriptions

theorem unsubscribe (kept : Subscriptions h) (notDue : id ∉ due h) (another : ending h = true → ∃ other ∈ ids h, other ≠ id) :
    Subscriptions (h.unsubscribe id) := by
  by_cases found : id ∈ ids h
  · have isIds (other : SubscriptionId) : other ∈ ids (h.unsubscribe id) ↔ other ∈ ids h ∧ other ≠ id := by
      rw [unsubscribe_eq found]
      exact mem_withoutId
    have sameTerminals (other : SubscriptionId) : terminals other (h.unsubscribe id) = terminals other h := by
      rw [unsubscribe_eq found, terminals, terminals_concat, List.countP_append, terminals_closing]
      rfl
    have isSignal {signal : Signal T X} (member : signal ∈ (h.unsubscribe id).signals) :
        signal ∈ h.signals ∨ signal = .close ∨ signal = .unsubscribed id := by
      rw [unsubscribe_eq found, List.mem_append, List.mem_append, List.mem_singleton, or_assoc] at member
      exact member.imp_right (Or.imp_left mem_closing)
    have sameDue : due (h.unsubscribe id) = due h := by
      rw [unsubscribe_eq found]
      rfl
    have sameEnding : ending (h.unsubscribe id) = ending h := by
      rw [unsubscribe_eq found]
      rfl
    have sameNext : (h.unsubscribe id).nextSubscriptionId = h.nextSubscriptionId := by
      rw [unsubscribe_eq found]
    constructor
    · rw [unsubscribe_eq found]
      exact kept.distinct.sublist ((List.filter_sublist).map Prod.fst)
    · intro other member
      rw [sameNext]
      exact kept.known other ((isIds other).mp member).1
    · rw [sameDue]
      exact kept.dueOnce
    · intro other member
      rw [sameDue] at member
      exact (isIds other).mpr ⟨kept.dueIds other member, fun same => notDue (same ▸ member)⟩
    · intro isEnding
      obtain ⟨other, member, ne⟩ := another (sameEnding ▸ isEnding)
      exact List.ne_nil_of_mem ((isIds other).mpr ⟨member, ne⟩)
    · intro other member live
      obtain ⟨old, ne⟩ := (isIds other).mp live
      rcases isSignal member with before | isClose | same
      · exact kept.gone other before old
      · cases isClose
      · cases same
        exact ne rfl
    · intro signal member other isAbout
      rw [sameNext]
      rcases isSignal member with before | rfl | rfl
      · exact kept.mentioned signal before other isAbout
      · cases isAbout
      · cases isAbout
        exact kept.known id found
    · rw [unsubscribe_eq found]
      exact silent_concat (silent_closing kept.silent _) fun _ _ isNew => by cases isNew
    · intro other member
      rw [sameTerminals, sameDue, sameEnding]
      exact kept.subscribed other ((isIds other).mp member).1
    · intro other
      rw [sameTerminals]
      exact kept.atMostOne other
    · intro other known dropped notUnsubscribed
      rw [sameNext] at known
      rw [sameTerminals]
      rw [unsubscribe_eq found] at notUnsubscribed
      have ne : other ≠ id := by
        rintro rfl
        exact notUnsubscribed (List.mem_append_right _ List.mem_cons_self)
      refine kept.dropped other known (fun member => dropped ((isIds other).mpr ⟨member, ne⟩)) fun member => ?_
      exact notUnsubscribed (List.mem_append_left _ (List.mem_append_left _ member))
  · rw [unsubscribe_unknown found]
    exact kept

theorem begins (kept : Subscriptions h) (free : h.round = none) (event : Event T X)
    (nonempty : event.isTerminal = true → ids h ≠ []) :
    Subscriptions { h with round := some ⟨event, h.subscribers⟩ } where
  distinct := kept.distinct
  known := kept.known
  dueOnce := kept.distinct
  dueIds _ member := member
  alive := nonempty
  gone := kept.gone
  mentioned := kept.mentioned
  silent := kept.silent
  subscribed := by
    intro id member
    refine (kept.subscribed id member).trans ?_
    rw [ending, free, if_neg (by simp)]
    exact (if_neg fun both => both.2 member).symm
  atMostOne := kept.atMostOne
  dropped := kept.dropped

theorem called (kept : Subscriptions h) {event : Event T X} {subscriber : S} {subscribers : List (SubscriptionId × S)}
    (isRound : h.round = some ⟨event, (id, subscriber) :: subscribers⟩) :
    Subscriptions { h with round := some ⟨event, subscribers⟩, signals := h.signals ++ [.callback id event] } := by
  have isDue : due h = id :: subscribers.map Prod.fst := due_of_round isRound
  have isEnding : ending h = event.isTerminal := ending_of_round isRound
  have once := kept.dueOnce
  rw [isDue, List.nodup_cons] at once
  have live : id ∈ ids h := kept.dueIds id (isDue ▸ List.mem_cons_self)
  have before := kept.subscribed id live
  rw [if_neg (by simp [isDue])] at before
  have isTerminals (other : SubscriptionId) (signals : List (Signal T X)) :
      (signals ++ [Signal.callback id event]).countP (endsSubscription other) =
        signals.countP (endsSubscription other) + if id = other ∧ event.isTerminal then 1 else 0 := by
    rw [terminals_concat, endsSubscription]
    simp
  constructor
  · exact kept.distinct
  · exact kept.known
  · exact once.2
  · exact fun other member => kept.dueIds other (isDue ▸ List.mem_cons_of_mem _ member)
  · exact fun terminal => kept.alive (isEnding.trans terminal)
  · exact fun other member => kept.gone other (unsubscribed_of_concat (by simp) member)
  · refine mentioned_concat kept.mentioned fun other isAbout => ?_
    cases isAbout
    exact kept.known id live
  · refine silent_concat kept.silent fun other _ isNew member => ?_
    cases isNew
    exact kept.gone id member live
  · intro other member
    refine (isTerminals other h.signals).trans ?_
    have old := kept.subscribed other member
    rw [isDue, isEnding] at old
    show _ = if event.isTerminal = true ∧ other ∉ subscribers.map Prod.fst then 1 else 0
    rw [show h.signals.countP (endsSubscription other) = terminals other h from rfl, old]
    by_cases same : id = other
    · subst same
      simp [once.1]
    · rw [if_neg fun both : id = other ∧ event.isTerminal = true => same both.1, Nat.add_zero]
      have isOther : other ∈ id :: subscribers.map Prod.fst ↔ other ∈ subscribers.map Prod.fst :=
        List.mem_cons.trans (or_iff_right (Ne.symm same))
      exact if_congr (and_congr_right fun _ => not_congr isOther) rfl rfl
  · intro other
    refine Nat.le_trans (Nat.le_of_eq (isTerminals other h.signals)) ?_
    by_cases same : id = other
    · subst same
      rw [show h.signals.countP (endsSubscription id) = 0 from before, Nat.zero_add]
      split <;> simp
    · rw [if_neg fun both : id = other ∧ event.isTerminal = true => same both.1, Nat.add_zero]
      exact kept.atMostOne other
  · intro other known dropped notUnsubscribed
    refine (isTerminals other h.signals).trans ?_
    rw [if_neg fun both : id = other ∧ event.isTerminal = true => dropped (both.1 ▸ live), Nat.add_zero]
    exact kept.dropped other known dropped fun member => notUnsubscribed (List.mem_append_left _ member)

theorem finish (kept : Subscriptions h) {event : Event T X} (isRound : h.round = some ⟨event, []⟩) :
    Subscriptions (h.finish event) := by
  have noDue : due h = [] := due_of_round isRound
  have isEnding : ending h = event.isTerminal := ending_of_round isRound
  unfold BroadcastHandler.finish
  split
  · rename_i terminal
    have sameTerminals (id : SubscriptionId) :
        (h.signals ++ [Signal.close]).countP (endsSubscription id) = terminals id h :=
      (terminals_concat id h.signals _).trans (Nat.add_zero _)
    show Subscriptions { h with subscribers := [], round := none, signals := h.signals ++ [.close] }
    constructor
    · exact List.nodup_nil
    · exact fun id member => by cases member
    · exact List.nodup_nil
    · exact fun id member => by cases member
    · exact fun isEnding => by cases isEnding
    · exact fun id _ member => by cases member
    · exact mentioned_concat kept.mentioned fun id isAbout => by cases isAbout
    · exact silent_concat kept.silent fun _ _ isNew => by cases isNew
    · exact fun id member => by cases member
    · exact fun id => Nat.le_trans (Nat.le_of_eq (sameTerminals id)) (kept.atMostOne id)
    · intro id known _ notUnsubscribed
      refine (sameTerminals id).trans ?_
      by_cases live : id ∈ ids h
      · rw [kept.subscribed id live, isEnding, noDue, if_pos ⟨terminal, List.not_mem_nil⟩]
      · exact kept.dropped id known live fun member => notUnsubscribed (List.mem_append_left _ member)
  · rename_i notTerminal
    refine ⟨kept.distinct, kept.known, List.nodup_nil, (fun id member => by cases member), (fun isEnding => by cases isEnding),
      kept.gone, kept.mentioned, kept.silent, fun id member => ?_, kept.atMostOne, kept.dropped⟩
    refine (kept.subscribed id member).trans ?_
    rw [isEnding, if_neg fun both => notTerminal both.1]
    exact (if_neg fun both => by cases both.1).symm

theorem forEachSubscriber (kept : Subscriptions h) {round : Round T X S} (isRound : h.round = some round) :
    Subscriptions (h.forEachSubscriber round) := by
  obtain ⟨event, subscribers⟩ := round
  cases subscribers with
  | nil => exact kept.finish isRound
  | cons entry subscribers => exact kept.called isRound

theorem broadcast {event : Event T X} (kept : Subscriptions h) (nonempty : event.isTerminal = true → ids h ≠ [])
    (taken : h.broadcast event = .ok h') : Subscriptions h' := by
  unfold BroadcastHandler.broadcast at taken
  split at taken
  · rename_i free
    cases taken
    have begun := (kept.begins free event nonempty).forEachSubscriber rfl
    rwa [forEachSubscriber_begin] at begun
  · cases taken

theorem step {op : Op T X S} (kept : Subscriptions h) (respects : Respects h op)
    (taken : BroadcastHandler.step h op = .ok h') : Subscriptions h' := by
  cases op with
  | subscribe subscriber =>
      cases taken
      exact kept.subscribe subscriber respects.1 respects.2
  | unsubscribe id =>
      cases taken
      exact kept.unsubscribe respects.1 respects.2
  | read data => exact kept.broadcast (fun terminal => by cases terminal) taken
  | readEOF => exact kept.broadcast (fun _ => respects) taken
  | readException ex => exact kept.broadcast (fun _ => respects) taken
  | callbackReturns =>
      simp only [BroadcastHandler.step, callbackReturns] at taken
      split at taken
      · cases taken
      · rename_i round isRound
        cases taken
        exact kept.forEachSubscriber isRound

end Subscriptions

theorem closes_closing (subscribers : List (SubscriptionId × S)) :
    (closing subscribers : List (Signal T X)).countP isClose = if subscribers.isEmpty then 1 else 0 := by
  unfold closing
  split <;> rfl

def lastGoes (h h' : BroadcastHandler T X S) : Bool := !h.subscribers.isEmpty && h'.subscribers.isEmpty

theorem closes_same {signal : Signal T X} (notClose : isClose signal = false) (round : Option (Round T X S)) :
    closes { h with round := round, signals := h.signals ++ [signal] } =
      closes h + if lastGoes h { h with round := round, signals := h.signals ++ [signal] } then 1 else 0 := by
  have stays : lastGoes h { h with round := round, signals := h.signals ++ [signal] } = false := by
    unfold lastGoes
    simp
  rw [stays, closes, List.countP_append, List.countP_singleton, notClose]
  rfl

theorem closes_unsubscribe (h : BroadcastHandler T X S) (id : SubscriptionId) :
    closes (h.unsubscribe id) = closes h + if lastGoes h (h.unsubscribe id) then 1 else 0 := by
  by_cases found : id ∈ ids h
  · have isSome : h.subscribers.isEmpty = false := isEmpty_of_ids (List.ne_nil_of_mem found)
    rw [unsubscribe_eq found, closes, List.countP_append, List.countP_append, closes_closing, lastGoes, isSome]
    rfl
  · rw [unsubscribe_unknown found]
    simp [lastGoes]

theorem closes_forEachSubscriber {round : Round T X S}
    (nonempty : round.event.isTerminal = true → round.subscribers = [] → ids h ≠ []) :
    closes (h.forEachSubscriber round) = closes h + if lastGoes h (h.forEachSubscriber round) then 1 else 0 := by
  obtain ⟨event, subscribers⟩ := round
  cases subscribers with
  | nil =>
      show closes (h.finish event) = closes h + if lastGoes h (h.finish event) then 1 else 0
      unfold BroadcastHandler.finish
      split
      · rename_i terminal
        have isSome : h.subscribers.isEmpty = false := isEmpty_of_ids (nonempty terminal rfl)
        show (h.signals ++ [Signal.close]).countP isClose = _
        rw [List.countP_append, lastGoes, isSome]
        rfl
      · simp [closes, lastGoes]
  | cons entry subscribers => exact closes_same rfl _

theorem closes_step {op : Op T X S} (kept : Subscriptions h) (respects : Respects h op)
    (taken : step h op = .ok h') : closes h' = closes h + if lastGoes h h' then 1 else 0 := by
  have broadcasts (event : Event T X) (nonempty : event.isTerminal = true → ids h ≠ []) (taken : h.broadcast event = .ok h') :
      closes h' = closes h + if lastGoes h h' then 1 else 0 := by
    unfold broadcast at taken
    split at taken
    · cases taken
      exact closes_forEachSubscriber fun terminal _ => nonempty terminal
    · cases taken
  cases op with
  | subscribe subscriber =>
      cases taken
      have isSome : (h.subscribe subscriber).subscribers.isEmpty = false := by
        simp [subscribe, setSubscriber]
      rw [lastGoes, isSome, Bool.and_false, closes, subscribe, List.countP_append]
      rfl
  | unsubscribe id =>
      cases taken
      exact closes_unsubscribe h id
  | read data => exact broadcasts (.onNext data) (fun terminal => by cases terminal) taken
  | readEOF => exact broadcasts .onCompleted (fun _ => respects) taken
  | readException ex => exact broadcasts (.onError ex) (fun _ => respects) taken
  | callbackReturns =>
      simp only [step, callbackReturns] at taken
      split at taken
      · cases taken
      · rename_i round isRound
        cases taken
        exact closes_forEachSubscriber fun terminal _ => kept.alive ((ending_of_round isRound).trans terminal)

/-- What is promised to the subscribers. -/
structure Contract (h : BroadcastHandler T X S) : Prop where
  silent : Silent h.signals
  atMostOne : ∀ id, terminals id h ≤ 1
  ended : ∀ id, .subscribed id ∈ h.signals → id ∉ ids h → .unsubscribed id ∉ h.signals → terminals id h = 1
  closesOnce : ∀ op h', Respects h op → step h op = .ok h' → closes h' = closes h + if lastGoes h h' then 1 else 0

theorem Subscriptions.contract (kept : Subscriptions h) : Contract h where
  silent := kept.silent
  atMostOne := kept.atMostOne
  ended := fun id isSubscribed => kept.dropped id (kept.mentioned _ isSubscribed id rfl)
  closesOnce := fun _ _ respects taken => closes_step kept respects taken

theorem new_subscriptions : Subscriptions ({} : BroadcastHandler T X S) where
  distinct := List.nodup_nil
  known _ member := nomatch member
  dueOnce := List.nodup_nil
  dueIds _ member := nomatch member
  alive isEnding := nomatch isEnding
  gone _ member := nomatch member
  mentioned _ member := nomatch member
  silent := List.Pairwise.nil
  subscribed _ member := nomatch member
  atMostOne _ := Nat.zero_le 1
  dropped _ known := nomatch known

/-- The handler keeps its contract, if no callback cancels a subscription that is still to be called, none subscribes or
cancels the last subscription while they end, they end only if there are any, and their ids are not used up. -/
theorem broadcast_keeps_contract (ops : List (Op T X S)) (h : BroadcastHandler T X S)
    (along : Along step Respects {} ops) (done : run {} ops = .ok h) : Contract h :=
  (run_invariant (fun _ _ _ kept respects taken => Subscriptions.step kept respects taken) new_subscriptions along
    done).contract

section examples

def cancelling : List (Op Nat Nat Unit) :=
  [.subscribe (), .subscribe (), .read 7, .unsubscribe 0, .callbackReturns, .callbackReturns, .readEOF, .callbackReturns]

theorem broadcast_keeps_contract_cancelling : ∃ h, run {} cancelling = .ok h ∧
    h.signals = [.subscribed 0, .subscribed 1, .callback 0 (.onNext 7), .unsubscribed 0, .callback 1 (.onNext 7),
      .callback 1 .onCompleted, .close] ∧ Contract h :=
  ⟨_, rfl, rfl, broadcast_keeps_contract cancelling _ (by decide) rfl⟩

/-- A callback after `unsubscribe`, a subscription that is dropped without a last event, and two closes. -/
theorem broadcast_breaks_contract :
    (∃ h : BroadcastHandler Nat Nat Unit,
      run {} [.subscribe (), .subscribe (), .read 7, .unsubscribe 1, .callbackReturns] = .ok h ∧
      h.signals = [.subscribed 0, .subscribed 1, .callback 0 (.onNext 7), .unsubscribed 1, .callback 1 (.onNext 7)]) ∧
    (∃ h : BroadcastHandler Nat Nat Unit, run {} [.subscribe (), .readEOF, .subscribe (), .callbackReturns] = .ok h ∧
      h.signals = [.subscribed 0, .callback 0 .onCompleted, .subscribed 1, .close] ∧ h.subscribers = []) ∧
    ∃ h : BroadcastHandler Nat Nat Unit, run {} [.subscribe (), .readEOF, .unsubscribe 0, .callbackReturns] = .ok h ∧
      h.signals = [.subscribed 0, .callback 0 .onCompleted, .close, .unsubscribed 0, .close] :=
  ⟨⟨_, rfl, rfl⟩, ⟨_, rfl, rfl, rfl⟩, ⟨_, rfl, rfl⟩⟩

end examples

end Wangle.Proof.Channel
