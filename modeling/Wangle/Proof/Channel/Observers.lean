import Wangle.Channel.ObservingHandler
import Wangle.Proof.Channel.Subscriptions

/-!
# The subscriptions of observing handlers

A broadcast handler is seen together with the subscriptions that the observing handlers have recorded. While it
tells its subscribers that the broadcast ends, those that have been told have recorded nothing, and the handler
still lists them.
-/

namespace Wangle.Proof.Channel
open Wangle.Channel Wangle.Transition

section
variable {T X : Type}

def Calm (s : Observation T X) : Prop := ∀ b, ending (s.broadcasts b) = false

structure Single (s : Observation T X) : Prop where
  held : ∀ o b id, (id, o) ∈ (s.broadcasts b).subscribers ↔ (s.observers o).subscription = some (b, id)
  distinct : ∀ b, (ids (s.broadcasts b)).Nodup
  gone : ∀ o, (s.observers o).destroyed = true → (s.observers o).subscription = none

abbrev Subscribable (handler : BroadcastHandler T X Nat) : Prop :=
  ending handler = false ∧ handler.nextSubscriptionId ∉ ids handler

abbrev Spared (s : Observation T X) (o : Nat) : Prop :=
  ∀ b ∈ (s.observers o).broadcastHandler, (s.observers o).subscriptionId ∉ due (s.broadcasts b)

def Orderly (s : Observation T X) : Observation.Op T X → Prop
  | .transportActive _ (.ready b) => Subscribable (s.broadcasts b)
  | .connected _ (some b) _ => Subscribable (s.broadcasts b)
  | .writeFails o true => Spared s o
  | .destroy o => Spared s o
  | _ => True

/-! ## One broadcast handler -/

structure Serves (b : Nat) (handler : BroadcastHandler T X Nat) (recorded : Nat → Option (Nat × SubscriptionId)) :
    Prop where
  distinct : (ids handler).Nodup
  listed : ∀ o id, recorded o = some (b, id) → (id, o) ∈ handler.subscribers
  held : ∀ id o, (id, o) ∈ handler.subscribers →
    recorded o = some (b, id) ∨ ending handler = true ∧ id ∉ due handler
  calls : ∀ round ∈ handler.round, ∀ entry ∈ round.subscribers, recorded entry.2 = some (b, entry.1)
  once : (due handler).Nodup
  told : ending handler = true → ∀ o id, recorded o = some (b, id) → id ∈ due handler

variable {b : Nat} {handler : BroadcastHandler T X Nat} {recorded recorded' : Nat → Option (Nat × SubscriptionId)}

theorem Serves.congr (serves : Serves b handler recorded)
    (same : ∀ o id, recorded' o = some (b, id) ↔ recorded o = some (b, id)) : Serves b handler recorded' where
  distinct := serves.distinct
  listed o id record := serves.listed o id ((same o id).mp record)
  held id o member := (serves.held id o member).imp_left (same o id).mpr
  calls round isRound entry member := (same _ _).mpr (serves.calls round isRound entry member)
  once := serves.once
  told isEnding o id record := serves.told isEnding o id ((same o id).mp record)

theorem setSubscriber_perm {S : Type} {subscribers : List (SubscriptionId × S)} {id : SubscriptionId}
    (free : id ∉ subscribers.map Prod.fst) (subscriber : S) :
    (BroadcastHandler.setSubscriber id subscriber subscribers).Perm ((id, subscriber) :: subscribers) := by
  have later : subscribers.filter (id < ·.1) = subscribers.filter (fun entry => !decide (entry.1 < id)) := by
    refine List.filter_congr fun entry member => ?_
    have other : entry.1 ≠ id := by
      rintro rfl
      exact free (List.mem_map_of_mem member)
    rw [← decide_not, decide_eq_decide]
    exact ⟨Nat.lt_asymm, fun notLess => Nat.lt_of_le_of_ne (Nat.le_of_not_lt notLess) (Ne.symm other)⟩
  rw [BroadcastHandler.setSubscriber, later]
  exact List.perm_middle.trans ((List.filter_append_perm _ _).cons _)

theorem Serves.subscribe (serves : Serves b handler recorded) (subscribable : Subscribable handler) {o : Nat}
    (fresh : recorded o = none) :
    Serves b (handler.subscribe o) (Function.update recorded o (some (b, handler.nextSubscriptionId))) := by
  obtain ⟨calm, free⟩ := subscribable
  have perm : (handler.subscribe o).subscribers.Perm ((handler.nextSubscriptionId, o) :: handler.subscribers) :=
    setSubscriber_perm free o
  have other {v : Nat} {id : SubscriptionId} (record : recorded v = some (b, id)) : v ≠ o := by
    rintro rfl
    rw [fresh] at record
    cases record
  have notEnding : ending (handler.subscribe o) = false := calm
  refine ⟨?_, fun v id record => ?_, fun id v member => .inl ?_, fun round isRound entry member => ?_, serves.once, ?_⟩
  · refine (perm.map Prod.fst).nodup_iff.mpr ?_
    exact List.nodup_cons.mpr ⟨free, serves.distinct⟩
  · rw [perm.mem_iff, List.mem_cons]
    by_cases own : v = o
    · rw [own, Function.update_self] at record
      cases record
      exact .inl (by rw [own])
    · rw [Function.update_of_ne own] at record
      exact .inr (serves.listed v id record)
  · rw [perm.mem_iff, List.mem_cons] at member
    rcases member with new | old
    · cases new
      rw [Function.update_self]
    · rcases serves.held id v old with record | ⟨isEnding, _⟩
      · rw [Function.update_of_ne (other record), record]
      · rw [calm] at isEnding
        cases isEnding
  · have record := serves.calls round isRound entry member
    rw [Function.update_of_ne (other record), record]
  · intro isEnding
    rw [notEnding] at isEnding
    cases isEnding

/-! An observing handler forgets its subscription, and the others keep theirs. -/

section
variable {o v : Nat} {id id' : SubscriptionId}

theorem recorded_of_forget (record : Function.update recorded o none v = some (b, id)) : recorded v = some (b, id) ∧ v ≠ o := by
  rw [Function.update_apply] at record
  split at record
  · cases record
  · rename_i different
    exact ⟨record, different⟩

theorem forget_of_ne (record : recorded o = some (b, id)) (record' : recorded v = some (b, id')) (different : id' ≠ id) :
    Function.update recorded o none v = some (b, id') := by
  have other : v ≠ o := by
    rintro rfl
    rw [record] at record'
    cases record'
    exact different rfl
  rw [Function.update_of_ne other, record']

theorem Serves.eq_of_recorded (serves : Serves b handler recorded) (record : recorded o = some (b, id))
    (record' : recorded v = some (b, id)) : v = o := by
  have same := List.inj_on_of_nodup_map serves.distinct (serves.listed v id record') (serves.listed o id record) rfl
  exact congrArg Prod.snd same

end

theorem Serves.unsubscribe (serves : Serves b handler recorded) {o : Nat} {id : SubscriptionId}
    (record : recorded o = some (b, id)) (notDue : id ∉ due handler) :
    Serves b (handler.unsubscribe id) (Function.update recorded o none) := by
  have found : id ∈ ids handler := List.mem_map_of_mem (serves.listed o id record)
  rw [unsubscribe_eq found]
  refine ⟨?_, fun v id' record' => ?_, fun id' v member => ?_, fun round isRound entry member => ?_, serves.once, ?_⟩
  · exact serves.distinct.sublist (List.filter_sublist.map Prod.fst)
  · obtain ⟨record', different⟩ := recorded_of_forget record'
    refine List.mem_filter.mpr ⟨serves.listed v id' record', decide_eq_true ?_⟩
    rintro rfl
    exact different (serves.eq_of_recorded record record')
  · obtain ⟨member, different⟩ := List.mem_filter.mp member
    exact (serves.held id' v member).imp_left fun record' => forget_of_ne record record' (of_decide_eq_true different)
  · have isDue : due handler = round.subscribers.map Prod.fst := due_of_round isRound
    refine forget_of_ne record (serves.calls round isRound entry member) fun same => notDue ?_
    rw [isDue, ← same]
    exact List.mem_map_of_mem member
  · intro isEnding v id' record'
    exact serves.told isEnding v id' (recorded_of_forget record').1

theorem Serves.begins (serves : Serves b handler recorded) (free : handler.round = none) (event : Event T X) :
    Serves b { handler with round := some ⟨event, handler.subscribers⟩ } recorded := by
  have record {id : SubscriptionId} {o : Nat} (member : (id, o) ∈ handler.subscribers) : recorded o = some (b, id) := by
    rcases serves.held id o member with record | ⟨isEnding, _⟩
    · exact record
    · rw [ending, free] at isEnding
      cases isEnding
  refine ⟨serves.distinct, serves.listed, fun id o member => .inl (record member), ?_, serves.distinct, ?_⟩
  · rintro round ⟨⟩ entry member
    exact record member
  · intro _ o id recordedId
    exact List.mem_map_of_mem (serves.listed o id recordedId)

theorem Serves.next (serves : Serves b handler recorded) {event : Event T X} {entry : SubscriptionId × Nat}
    {rest : List (SubscriptionId × Nat)} (isRound : handler.round = some ⟨event, entry :: rest⟩)
    (more : event.isTerminal = false) (signals : List (Signal T X)) :
    Serves b { handler with round := some ⟨event, rest⟩, signals := signals } recorded := by
  have once := serves.once
  rw [due_of_round isRound] at once
  have notEnding : ending handler = false := (ending_of_round isRound).trans more
  refine ⟨serves.distinct, serves.listed, fun id o member => ?_, ?_, (List.nodup_cons.mp once).2, ?_⟩
  · rcases serves.held id o member with record | ⟨isEnding, _⟩
    · exact .inl record
    · rw [notEnding] at isEnding
      cases isEnding
  · rintro round ⟨⟩ later member
    exact serves.calls _ isRound later (List.mem_cons_of_mem _ member)
  · intro isEnding
    have isEnding : event.isTerminal = true := isEnding
    rw [more] at isEnding
    cases isEnding

theorem Serves.tell (serves : Serves b handler recorded) {event : Event T X} {entry : SubscriptionId × Nat}
    {rest : List (SubscriptionId × Nat)} (isRound : handler.round = some ⟨event, entry :: rest⟩)
    (last : event.isTerminal = true) (signals : List (Signal T X)) :
    Serves b { handler with round := some ⟨event, rest⟩, signals := signals } (Function.update recorded entry.2 none) := by
  have once := serves.once
  rw [due_of_round isRound] at once
  obtain ⟨absent, once⟩ := List.nodup_cons.mp once
  have isEnding : ending handler = true := (ending_of_round isRound).trans last
  have isDue := due_of_round isRound
  have record := serves.calls _ isRound entry List.mem_cons_self
  refine ⟨serves.distinct, fun o id record' => ?_, fun id o member => ?_, ?_, once, ?_⟩
  · exact serves.listed o id (recorded_of_forget record').1
  · by_cases own : id = entry.1
    · subst own
      exact .inr ⟨last, absent⟩
    · rcases serves.held id o member with record' | ⟨_, notDue⟩
      · exact .inl (forget_of_ne record record' own)
      · rw [isDue] at notDue
        exact .inr ⟨last, fun later => notDue (List.mem_cons_of_mem _ later)⟩
  · rintro round ⟨⟩ later member
    refine forget_of_ne record (serves.calls _ isRound later (List.mem_cons_of_mem _ member)) fun same => absent ?_
    rw [← same]
    exact List.mem_map_of_mem member
  · intro _ o id record'
    obtain ⟨record', different⟩ := recorded_of_forget record'
    have isNext := serves.told isEnding o id record'
    rw [isDue] at isNext
    rcases List.mem_cons.mp isNext with rfl | later
    · exact absurd (serves.eq_of_recorded record record') different
    · exact later

theorem Serves.finish (serves : Serves b handler recorded) {event : Event T X} (isRound : handler.round = some ⟨event, []⟩) :
    Serves b (handler.finish event) recorded := by
  have isDue : due handler = [] := due_of_round isRound
  have isEnding := ending_of_round isRound
  rw [BroadcastHandler.finish]
  split
  · rename_i last
    have nobody (o : Nat) (id : SubscriptionId) : recorded o ≠ some (b, id) := by
      intro record
      have isNext := serves.told (isEnding.trans last) o id record
      rw [isDue] at isNext
      cases isNext
    rw [closeIfIdle_eq]
    exact ⟨.nil, fun o id record => absurd record (nobody o id), nofun, nofun, .nil, nofun⟩
  · rename_i more
    have held (id : SubscriptionId) (o : Nat) (member : (id, o) ∈ handler.subscribers) : recorded o = some (b, id) := by
      rcases serves.held id o member with record | ⟨last, _⟩
      · exact record
      · exact absurd (isEnding.symm.trans last) more
    exact ⟨serves.distinct, serves.listed, fun id o member => .inl (held id o member), nofun, .nil, nofun⟩

/-! ## All of them -/

def records (s : Observation T X) (o : Nat) : Option (Nat × SubscriptionId) := (s.observers o).subscription

structure Uncommitted (observer : ObservingHandler) : Prop where
  gone : observer.destroyed = true → observer.broadcastHandler = none
  waiting : observer.connecting = true → observer.broadcastHandler = none

structure Observed (s : Observation T X) : Prop where
  serves : ∀ b, Serves b (s.broadcasts b) (records s)
  uncommitted : ∀ o, Uncommitted (s.observers o)

variable {s s' : Observation T X} {o : Nat} {observer : ObservingHandler}

theorem subscription_eq_some {id : SubscriptionId} :
    observer.subscription = some (b, id) ↔ observer.broadcastHandler = some b ∧ observer.subscriptionId = id := by
  simp [ObservingHandler.subscription]

theorem records_setObserver (s : Observation T X) (o : Nat) (observer : ObservingHandler) :
    records (s.setObserver o observer) = Function.update (records s) o observer.subscription := by
  funext v
  simp only [records, Observation.setObserver, Function.update_apply]
  split <;> rfl

theorem uncommitted_setObserver (observed : Observed s) (uncommitted : Uncommitted observer) (v : Nat) :
    Uncommitted ((s.setObserver o observer).observers v) := by
  change Uncommitted (Function.update s.observers o observer v)
  rw [Function.update_apply]
  split
  · exact uncommitted
  · exact observed.uncommitted v

theorem Observed.update (observed : Observed s)
    (own : Serves b handler (Function.update (records s) o observer.subscription))
    (before : ∀ entry ∈ records s o, entry.1 = b) (after : ∀ entry ∈ observer.subscription, entry.1 = b)
    (uncommitted : Uncommitted observer) : Observed ((s.setObserver o observer).setBroadcast b handler) := by
  have isRecords : records ((s.setObserver o observer).setBroadcast b handler) =
      Function.update (records s) o observer.subscription := records_setObserver s o observer
  refine ⟨fun c => ?_, uncommitted_setObserver observed uncommitted⟩
  rw [isRecords]
  by_cases isOwn : c = b
  · subst isOwn
    simpa [Observation.setBroadcast] using own
  · have serves : Serves c (s.broadcasts c) (records s) := observed.serves c
    simp only [Observation.setBroadcast, Observation.setObserver, Function.update_of_ne isOwn]
    refine serves.congr fun v id => ?_
    by_cases isObserver : v = o
    · subst isObserver
      rw [Function.update_self]
      exact ⟨fun record => absurd (after _ record) isOwn, fun record => absurd (before _ record) isOwn⟩
    · rw [Function.update_of_ne isObserver]

theorem Observed.setObserver (observed : Observed s) (same : observer.subscription = records s o)
    (uncommitted : Uncommitted observer) : Observed (s.setObserver o observer) := by
  refine ⟨fun b => ?_, uncommitted_setObserver observed uncommitted⟩
  rw [records_setObserver, same, Function.update_eq_self]
  exact observed.serves b

theorem Observed.setBroadcast (observed : Observed s) (own : Serves b handler (records s)) :
    Observed (s.setBroadcast b handler) := by
  refine ⟨fun c => ?_, observed.uncommitted⟩
  change Serves c (Function.update s.broadcasts b handler c) (records s)
  by_cases isOwn : c = b
  · subst isOwn
    rw [Function.update_self]
    exact own
  · rw [Function.update_of_ne isOwn]
    exact observed.serves c

theorem Observed.destroy (observed : Observed s) (spared : Spared s o) : Observed (s.destroy o) := by
  have uncommitted : Uncommitted { s.observers o with broadcastHandler := none, destroyed := true } :=
    ⟨fun _ => rfl, fun _ => rfl⟩
  simp only [Observation.destroy]
  split
  · rename_i unrecorded
    refine observed.setObserver ?_ uncommitted
    rw [records, ObservingHandler.subscription, ObservingHandler.subscription, unrecorded]
  · rename_i b isRecorded
    have record : records s o = some (b, (s.observers o).subscriptionId) := subscription_eq_some.mpr ⟨isRecorded, rfl⟩
    refine observed.update ?_ ?_ nofun uncommitted
    · exact (observed.serves b).unsubscribe record (spared b isRecorded)
    · rw [record]
      rintro entry ⟨⟩
      rfl

theorem Observed.close (observed : Observed s) {destroys : Bool} (spared : destroys = true → Spared s o) :
    Observed (s.close o destroys) := by
  unfold Observation.close
  split
  · rename_i isDestroyed
    exact observed.destroy (spared isDestroyed)
  · exact observed

theorem Observed.fail (observed : Observed s) {destroys : Bool} (spared : destroys = true → Spared s o) :
    Observed (s.fail o destroys) := by
  unfold Observation.fail
  split
  · exact observed
  · exact observed.close spared

theorem Observed.subscribe (observed : Observed s) (unrecorded : (s.observers o).broadcastHandler = none)
    (idle : (s.observers o).connecting = false) (subscribable : Subscribable (s.broadcasts b)) :
    Observed (s.subscribe o b) := by
  simp only [Observation.subscribe]
  split
  · exact observed
  · rename_i present
    have fresh : records s o = none := by
      rw [records, ObservingHandler.subscription, unrecorded]
      rfl
    refine observed.update ((observed.serves b).subscribe subscribable fresh) ?_ ?_ ?_
    · rw [fresh]
      exact nofun
    · rintro entry ⟨⟩
      rfl
    · exact ⟨fun isDestroyed => absurd isDestroyed present, fun isConnecting => by rw [idle] at isConnecting; cases isConnecting⟩

theorem spared_of_unrecorded (unrecorded : (s.observers o).broadcastHandler = none) : Spared s o := by
  intro b isRecorded
  rw [unrecorded] at isRecorded
  cases isRecorded

theorem forEachSubscriber_recorded {round : Round T X Nat} {reaction : Reaction} :
    (s.setBroadcast b { s.broadcasts b with round := some round }).forEachSubscriber b round reaction =
      s.forEachSubscriber b round reaction := by
  simp only [Observation.forEachSubscriber, Observation.setBroadcast, Function.update_self, Function.update_idem,
    forEachSubscriber_begin]

theorem Observed.present (observed : Observed s) {id : SubscriptionId} (record : records s o = some (b, id)) :
    (s.observers o).destroyed = false := by
  cases isDestroyed : (s.observers o).destroyed with
  | false => rfl
  | true =>
      rw [records, ObservingHandler.subscription, (observed.uncommitted o).gone isDestroyed] at record
      cases record

def calling (b : Nat) (event : Event T X) (entry : SubscriptionId × Nat) (rest : List (SubscriptionId × Nat))
    (s : Observation T X) : Observation T X :=
  s.setBroadcast b { s.broadcasts b with
    round := some ⟨event, rest⟩
    signals := (s.broadcasts b).signals ++ [.callback entry.1 event] }

theorem Observed.onNext (observed : Observed s) {event : Event T X} {id : SubscriptionId}
    {rest : List (SubscriptionId × Nat)} {reaction : Reaction}
    (isRound : (s.broadcasts b).round = some ⟨event, (id, o) :: rest⟩) (more : event.isTerminal = false) :
    ∃ s', (calling b event (id, o) rest s).callback o event reaction = .ok s' ∧ Observed s' := by
  have record := (observed.serves b).calls _ isRound (id, o) List.mem_cons_self
  have present : ((calling b event (id, o) rest s).observers o).destroyed = false := observed.present record
  have observed' : Observed (calling b event (id, o) rest s) :=
    observed.setBroadcast ((observed.serves b).next isRound more _)
  simp only [Observation.callback, present, more, Bool.false_eq_true, if_false]
  split
  · refine ⟨_, rfl, observed'.close fun _ c isRecorded => ?_⟩
    obtain ⟨isBroadcast, isId⟩ := subscription_eq_some.mp record
    have same : c = b := Option.some.inj (isRecorded.symm.trans isBroadcast)
    have once := (observed.serves b).once
    rw [due_of_round isRound] at once
    have isDue : due ((calling b event (id, o) rest s).broadcasts b) = rest.map Prod.fst := by
      simp [calling, Observation.setBroadcast, due]
    have isId : ((calling b event (id, o) rest s).observers o).subscriptionId = id := isId
    rw [same, isDue, isId]
    exact (List.nodup_cons.mp once).1
  · exact ⟨_, rfl, observed'.setObserver rfl ⟨fun isDestroyed => (by cases isDestroyed), (observed'.uncommitted o).waiting⟩⟩

theorem Observed.onEnd (observed : Observed s) {event : Event T X} {id : SubscriptionId}
    {rest : List (SubscriptionId × Nat)} {reaction : Reaction}
    (isRound : (s.broadcasts b).round = some ⟨event, (id, o) :: rest⟩) (last : event.isTerminal = true) :
    ∃ s', (calling b event (id, o) rest s).callback o event reaction = .ok s' ∧ Observed s' := by
  have record : records s o = some (b, id) := (observed.serves b).calls _ isRound (id, o) List.mem_cons_self
  have present : ((calling b event (id, o) rest s).observers o).destroyed = false := observed.present record
  simp only [Observation.callback, present, last, Bool.false_eq_true, if_false, if_true]
  refine ⟨_, rfl, Observed.close ?_ fun _ => spared_of_unrecorded ?_⟩
  · refine observed.update ((observed.serves b).tell isRound last _) ?_ nofun ⟨fun _ => rfl, fun _ => rfl⟩
    rw [record]
    rintro entry ⟨⟩
    rfl
  · simp [Observation.setObserver]

theorem Observed.forEachSubscriber (observed : Observed s) {round : Round T X Nat} {reaction : Reaction}
    (isRound : (s.broadcasts b).round = some round) :
    ∃ s', s.forEachSubscriber b round reaction = .ok s' ∧ Observed s' := by
  obtain ⟨event, subscribers⟩ := round
  cases subscribers with
  | nil => exact ⟨_, rfl, observed.setBroadcast ((observed.serves b).finish isRound)⟩
  | cons entry rest =>
      cases last : event.isTerminal with
      | false => exact observed.onNext isRound last
      | true => exact observed.onEnd isRound last

theorem step_observed {op : Observation.Op T X} (observed : Observed s) (orderly : Orderly s op) :
    Yields (· = .destroyed) Observed (s.step op) := by
  cases op with
  | transportActive o connect =>
      simp only [Observation.step, Observation.transportActive]
      split
      · exact nofun
      · rename_i ready
        split
        · exact observed
        · rename_i absent
          have unrecorded : (s.observers o).broadcastHandler = none := by simpa using absent
          cases connect with
          | outstanding =>
              refine observed.setObserver rfl ⟨fun isDestroyed => absurd (.inl isDestroyed) ready, fun _ => unrecorded⟩
          | ready b =>
              have idle : (s.observers o).connecting = false := by simpa using fun isConnecting => ready (.inr isConnecting)
              exact observed.subscribe unrecorded idle orderly
          | failed destroys => exact observed.fail fun _ => spared_of_unrecorded unrecorded
  | connected o b destroys =>
      simp only [Observation.step, Observation.connected]
      split
      · rename_i isConnecting
        have unrecorded := (observed.uncommitted o).waiting isConnecting
        have isOwn (observer : ObservingHandler) : (s.setObserver o observer).observers o = observer :=
          Function.update_self ..
        have observed' : Observed (s.setObserver o { s.observers o with connecting := false }) :=
          observed.setObserver rfl ⟨(observed.uncommitted o).gone, nofun⟩
        cases b with
        | some b => exact observed'.subscribe (by rw [isOwn]; exact unrecorded) (by rw [isOwn]) orderly
        | none => exact observed'.fail fun _ => spared_of_unrecorded (by rw [isOwn]; exact unrecorded)
      · exact nofun
  | broadcast b event reaction =>
      simp only [Observation.step, Observation.broadcast]
      split
      · exact nofun
      · rename_i free
        have begun := observed.setBroadcast ((observed.serves b).begins free event)
        have isRound : ((s.setBroadcast b { s.broadcasts b with round := some ⟨event, (s.broadcasts b).subscribers⟩ }).broadcasts
            b).round = some ⟨event, (s.broadcasts b).subscribers⟩ := by simp [Observation.setBroadcast]
        obtain ⟨s', taken, observed'⟩ := @Observed.forEachSubscriber _ _ b _ begun _ reaction isRound
        rw [forEachSubscriber_recorded] at taken
        rw [taken]
        exact observed'
  | callbackReturns b reaction =>
      simp only [Observation.step, Observation.callbackReturns]
      split
      · exact nofun
      · rename_i round isRound
        obtain ⟨s', taken, observed'⟩ := @Observed.forEachSubscriber _ _ b s observed round reaction isRound
        rw [taken]
        exact observed'
  | writeFails o destroys =>
      simp only [Observation.step, Observation.writeFails]
      split
      · exact nofun
      · have isOwn (observer : ObservingHandler) : (s.setObserver o observer).observers o = observer :=
          Function.update_self ..
        have observed' : Observed (s.setObserver o { s.observers o with writes := (s.observers o).writes - 1 }) :=
          observed.setObserver rfl ⟨(observed.uncommitted o).gone, (observed.uncommitted o).waiting⟩
        refine observed'.fail ?_
        rintro rfl b isRecorded
        rw [isOwn] at isRecorded ⊢
        exact orderly b isRecorded
  | destroy o =>
      simp only [Observation.step]
      split
      · exact nofun
      · exact observed.destroy orderly

theorem Observed.single (observed : Observed s) (calm : Calm s) : Single s where
  held o b id := by
    constructor
    · intro member
      rcases (observed.serves b).held id o member with record | ⟨isEnding, _⟩
      · exact record
      · rw [calm b] at isEnding
        cases isEnding
    · exact (observed.serves b).listed o id
  distinct b := (observed.serves b).distinct
  gone o isDestroyed := by rw [ObservingHandler.subscription, (observed.uncommitted o).gone isDestroyed]; rfl

theorem init_observed : Observed ({} : Observation T X) :=
  ⟨fun _ => ⟨.nil, nofun, nofun, nofun, .nil, nofun⟩, fun _ => ⟨nofun, nofun⟩⟩

theorem run_single (ops : List (Observation.Op T X)) (orderly : Along Observation.step Orderly {} ops) :
    Observation.run {} ops ≠ .error .destroyed ∧ ∀ s, Observation.run {} ops = .ok s → Calm s → Single s := by
  have yields := yields_run (fun s op observed permitted => step_observed observed permitted) init_observed orderly
  exact ⟨yields.ne_error rfl, fun s done calm => (yields.of_ok done).single calm⟩

instance (s : Observation T X) (op : Observation.Op T X) : Decidable (Orderly s op) := by
  unfold Orderly
  split <;> infer_instance

end

def watching : List (Observation.Op Nat Nat) :=
  [.transportActive 0 (.ready 0), .transportActive 1 .outstanding, .connected 1 (some 0) false,
    .broadcast 0 (.onNext 5) ⟨true, true⟩, .callbackReturns 0 {}, .callbackReturns 0 {}, .broadcast 0 .onCompleted ⟨false, true⟩,
    .callbackReturns 0 {}, .transportActive 2 (.ready 1)]

theorem watching_single : ∃ s, Observation.run {} watching = .ok s ∧ (s.observers 2).subscription = some (1, 0) ∧
    Calm s ∧ Single s := by
  have ends : Ends (fun s => (s.observers 2).subscription = some (1, 0) ∧ Calm s) (Observation.run {} watching) := by
    refine ⟨by decide +kernel, fun b => ?_⟩
    rcases b with _ | _ | b <;> rfl
  obtain ⟨s, done, last, calm⟩ := ends.exists_ok
  exact ⟨s, done, last, calm, (run_single watching (by decide +kernel)).2 s done calm⟩

theorem ending_broadcast_not_single :
    (∃ s : Observation Nat Nat, Observation.run {} [.transportActive 0 (.ready 0), .transportActive 1 (.ready 0),
        .broadcast 0 .onCompleted ⟨false, true⟩] = .ok s ∧
      (s.observers 0).destroyed = true ∧ (0, 0) ∈ (s.broadcasts 0).subscribers) ∧
    (∃ s : Observation Nat Nat, Observation.run {} [.transportActive 0 (.ready 0), .broadcast 0 .onCompleted ⟨false, true⟩,
        .transportActive 1 (.ready 0), .callbackReturns 0 {}] = .ok s ∧
      (s.broadcasts 0).round = none ∧ (s.observers 1).subscription = some (0, 1) ∧ (s.broadcasts 0).subscribers = []) ∧
    stuck? (Observation.run ({} : Observation Nat Nat) [.transportActive 0 (.ready 0), .transportActive 1 (.ready 0),
        .broadcast 0 (.onNext 5) {}, .destroy 1, .callbackReturns 0 {}]) = some .destroyed :=
  ⟨Ends.exists_ok (by decide +kernel), Ends.exists_ok (by decide +kernel), by decide +kernel⟩

end Wangle.Proof.Channel
