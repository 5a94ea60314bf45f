import Wangle.Proof.Acceptor.EvbHandshakeHelper
import Wangle.Acceptor.PeekingAcceptorHandshakeHelper

/-!
# An `EvbHandshakeHelper` around a peeking helper

A drop that comes before the report of the unencrypted helper is forwarded to that helper, which cannot be
dropped.
-/

namespace Wangle.Proof.Acceptor
open Wangle.Acceptor
open Wangle.Transition hiding run

section Peeking
open PeekingAcceptorHandshakeHelper

variable {p p' : PeekingAcceptorHandshakeHelper} {before : Bool} {picked : Prop} {report : Option Report}

def Unstarted (p : PeekingAcceptorHandshakeHelper) : Prop := p.socket = none ∧ p.helper = none

instance : DecidablePred Unstarted := fun p =>
  decidable_of_iff (p.socket.isNone ∧ p.helper.isNone) (by simp [Unstarted])

inductive Consistent (p : PeekingAcceptorHandshakeHelper) : Prop
  | unstarted (unstarted : Unstarted p)
  | peeking (sock : AsyncSSLSocket) (peeker : SocketPeeker) (socket : p.socket = some sock) (helper : p.helper = none)
      (installed : p.peeker = some peeker) (reading : sock.readCallback = true) (waiting : peeker.callback = true)
      (room : peeker.read < peeker.peekBytes.length) (callback : p.callback = true)
  | failed (sock : AsyncSSLSocket) (socket : p.socket = some sock) (helper : p.helper = none)
      (closed : sock.readCallback = false) (callback : p.callback = false)
  | chosen (inner : ChosenHelper) (socket : p.socket = none) (helper : p.helper = some inner)

def hasReported (p : PeekingAcceptorHandshakeHelper) : Bool :=
  match p.helper with
  | some (.ssl helper) => !helper.accepting
  | some .unencrypted => true
  | none => p.socket.isSome && !p.callback

def Picks (bytes : List UInt8) (p : PeekingAcceptorHandshakeHelper) : Prop :=
  p.peekCallbacks.findSome? (· bytes) = some .unencrypted

/-- What a call does that returns; `before` tells whether a report had been made, and `picked` whether the
unencrypted helper has been chosen. -/
structure Answers (before : Bool) (picked : Prop) (p' : PeekingAcceptorHandshakeHelper) (report : Option Report) :
    Prop where
  consistent : Consistent p'
  started : ¬ Unstarted p'
  recorded : hasReported p' = (before || report.isSome)
  once : before = true → report = none
  choice : p'.helper = some .unencrypted → picked

def Replies (before : Bool) (picked : Prop) (reply : Reply PeekingAcceptorHandshakeHelper) : Prop :=
  ∃ p' report, reply = .ok (p', report) ∧ Answers before picked p' report

theorem handshake_reported (helper : SSLAcceptorHandshakeHelper) (result : HandshakeResult) :
    (helper.handshake result).1.accepting = false := by
  cases result with
  | success nextProto => rfl
  | failure => rfl

theorem chosen_start_reported (sock : AsyncSSLSocket) (kind : HelperKind)
    (helper : p.helper = some (ChosenHelper.start sock kind).1) :
    hasReported p = (ChosenHelper.start sock kind).2.isSome := by
  cases kind with
  | unencrypted => simp [hasReported, helper, ChosenHelper.start]
  | ssl =>
      cases accepts : sock.accepts with
      | none => simp [hasReported, helper, ChosenHelper.start, SSLAcceptorHandshakeHelper.start, accepts]
      | some result =>
          simp [hasReported, helper, ChosenHelper.start, SSLAcceptorHandshakeHelper.start, accepts,
            handshake_reported]

theorem peekError_replies {sock : AsyncSSLSocket} (ex : HandshakeException) (socket : p.socket = some sock)
    (closed : sock.readCallback = false) (helper : p.helper = none) (callback : p.callback = true) :
    Replies false picked (p.peekError ex) := by
  refine ⟨_, _, if_pos callback, .failed sock socket helper closed rfl, ?_, ?_, nofun, ?_⟩
  · simp [Unstarted, socket]
  · simp [hasReported, helper, socket]
  · simp [helper]

theorem peekSuccess_replies {sock : AsyncSSLSocket} {bytes : List UInt8} (socket : p.socket = some sock)
    (closed : sock.readCallback = false) (helper : p.helper = none) (callback : p.callback = true)
    (picks : Picks bytes p → picked) : Replies false picked (p.peekSuccess bytes) := by
  cases choice : p.peekCallbacks.findSome? (· bytes) with
  | none =>
      simp only [peekSuccess, choice]
      exact peekError_replies _ socket closed helper callback
  | some kind =>
      refine ⟨_, _, by simp [peekSuccess, choice, socket, callback]; exact ⟨rfl, rfl⟩, .chosen _ rfl rfl, ?_, ?_, nofun, ?_⟩
      · simp [Unstarted]
      · simpa using chosen_start_reported sock kind rfl
      · intro unencrypted
        apply picks
        cases kind with
        | unencrypted => exact choice
        | ssl => simp [ChosenHelper.start] at unencrypted

theorem start_replies {sock : AsyncSSLSocket} (fresh : sock.sslState = .unencrypted)
    (unread : sock.readCallback = false) (helper : p.helper = none) :
    Replies false (p.numBytes = 0 ∧ Picks [] p) (p.start sock) := by
  simp only [start, fresh, if_true]
  split
  · rename_i none
    exact peekSuccess_replies rfl unread helper rfl fun picks => ⟨none, picks⟩
  · rename_i some
    refine ⟨_, _, rfl, .peeking _ _ rfl helper rfl rfl rfl ?_ rfl, ?_, ?_, nofun, ?_⟩
    · simpa using Nat.pos_of_ne_zero some
    · simp [Unstarted]
    · simp [hasReported, helper]
    · simp [helper]

theorem readErr_replies {sock : AsyncSSLSocket} {peeker : SocketPeeker} (ex : HandshakeException)
    (helper : p.helper = none) (waiting : peeker.callback = true) (callback : p.callback = true) :
    Replies false picked (p.readErr ex sock peeker) := by
  simp only [readErr, waiting, if_true]
  exact peekError_replies _ rfl rfl helper callback

theorem fill_length {peeker : SocketPeeker} {bytes : List UInt8}
    (fits : peeker.read + bytes.length ≤ peeker.peekBytes.length) :
    (peeker.fill bytes).peekBytes.length = peeker.peekBytes.length := by
  simp only [SocketPeeker.fill, List.length_append, List.length_take, List.length_drop]
  omega

def peeked? (p : PeekingAcceptorHandshakeHelper) : PeekEvent → Option (List UInt8)
  | .data bytes => match p.peeker with
      | some peeker =>
          let room := peeker.peekBytes.length - peeker.read
          if room ≤ bytes.length then some (peeker.fill (bytes.take room)).peekBytes else none
      | none => none
  | _ => none

theorem handleRead_replies {sock : AsyncSSLSocket} {peeker : SocketPeeker} {bytes : List UInt8}
    (socket : p.socket = some sock) (helper : p.helper = none) (installed : p.peeker = some peeker)
    (reading : sock.readCallback = true) (waiting : peeker.callback = true)
    (room : peeker.read < peeker.peekBytes.length) (callback : p.callback = true) :
    Replies false (∃ peeked, peeked? p (.data bytes) = some peeked ∧ Picks peeked p)
      (p.handleRead bytes sock peeker) := by
  have fits : peeker.read + (bytes.take (peeker.peekBytes.length - peeker.read)).length ≤ peeker.peekBytes.length := by
    rw [List.length_take]
    omega
  have size := fill_length fits
  simp only [handleRead, SocketPeeker.getReadBuffer, room, if_true, readDataAvailable, size]
  rw [if_neg (by simpa [SocketPeeker.fill] using fits)]
  split
  · rename_i full
    rw [if_pos (show (SocketPeeker.fill _ peeker).callback = true from waiting)]
    refine peekSuccess_replies rfl rfl helper callback fun picks => ⟨_, ?_, picks⟩
    simp only [SocketPeeker.fill, List.length_take] at full
    simp only [peeked?, installed]
    exact if_pos (by omega)
  · rename_i more
    refine ⟨_, _, rfl, .peeking sock _ socket helper rfl reading waiting ?_ callback, ?_, ?_, nofun, ?_⟩
    · rw [size]
      simp only [SocketPeeker.fill] at fits more ⊢
      omega
    · simp [Unstarted, socket]
    · simp [hasReported, helper, socket, callback]
    · simp [helper]

theorem Answers.weaken {picked' : Prop} (answers : Answers before picked p' report) (weaker : picked → picked') :
    Answers before picked' p' report :=
  ⟨answers.consistent, answers.started, answers.recorded, answers.once, fun helper => weaker (answers.choice helper)⟩

theorem Replies.weaken {reply : Reply PeekingAcceptorHandshakeHelper} {picked' : Prop}
    (replies : Replies before picked reply) (weaker : picked → picked') : Replies before picked' reply := by
  obtain ⟨p', report, equal, answers⟩ := replies
  exact ⟨p', report, equal, answers.weaken weaker⟩

theorem handshake_replies {helper : SSLAcceptorHandshakeHelper} (result : HandshakeResult) (socket : p.socket = none)
    (chosen : p.helper = some (.ssl helper)) (accepting : helper.accepting = true) :
    Replies (hasReported p) picked (p.event (.handshake result)) := by
  have returns : p.event (.handshake result) =
      .ok ({ p with helper := some (.ssl (helper.handshake result).1) }, some (helper.handshake result).2) := by
    simp [event, chosen, accepting]
  refine ⟨_, _, returns, .chosen _ socket rfl, ?_, ?_, ?_, by simp⟩
  · simp [Unstarted]
  · simp [hasReported, handshake_reported]
  · simp [hasReported, chosen, accepting]

theorem event_replies (e : PeekEvent) (consistent : Consistent p) :
    p.event e = .error .ignored ∨
      Replies (hasReported p)
        (p.helper = some .unencrypted ∨ ∃ peeked, peeked? p e = some peeked ∧ Picks peeked p) (p.event e) := by
  cases consistent with
  | unstarted unstarted =>
      left
      cases e with
      | _ => simp [event, unstarted.1, unstarted.2]
  | peeking sock peeker socket helper installed reading waiting room callback =>
      have unreported : hasReported p = false := by simp [hasReported, helper, socket, callback]
      rw [unreported]
      cases e with
      | handshake result => exact .inl (by simp [event, helper])
      | eof =>
          right
          simp only [event, socket, installed, reading, if_true]
          exact readErr_replies _ helper waiting callback
      | error what =>
          right
          simp only [event, socket, installed, reading, if_true]
          exact readErr_replies _ helper waiting callback
      | data bytes =>
          simp only [event, socket, installed, reading, Bool.true_and]
          split
          · exact .inr ((handleRead_replies socket helper installed reading waiting room callback).weaken .inr)
          · exact .inl rfl
  | failed sock socket helper closed callback =>
      left
      cases e with
      | handshake result => simp [event, helper]
      | _ =>
          cases peeker : p.peeker with
          | none => simp [event, socket, peeker]
          | some peeker => simp [event, socket, peeker, closed]
  | chosen inner socket helper =>
      cases e with
      | handshake result =>
          cases inner with
          | unencrypted => exact .inl (by simp [event, helper])
          | ssl inner =>
              cases accepting : inner.accepting with
              | false => exact .inl (by simp [event, helper, accepting])
              | true => exact .inr (handshake_replies result socket helper accepting)
      | _ => exact .inl (by simp [event, socket])

theorem ssl_dropConnection_once (reason : SSLErrorEnum) (helper : SSLAcceptorHandshakeHelper) :
    (!(helper.dropConnection reason).1.accepting) = (!helper.accepting || (helper.dropConnection reason).2.isSome) ∧
      (helper.accepting = false → (helper.dropConnection reason).2 = none) := by
  cases accepting : helper.accepting with
  | false => simp [SSLAcceptorHandshakeHelper.dropConnection, accepting]
  | true =>
      cases socket : helper.socket with
      | none => simp [SSLAcceptorHandshakeHelper.dropConnection, accepting, socket]
      | some sock =>
          simp [SSLAcceptorHandshakeHelper.dropConnection, SSLAcceptorHandshakeHelper.handshakeErr, accepting, socket]

theorem ssl_dropConnection_replies (reason : SSLErrorEnum) {helper : SSLAcceptorHandshakeHelper}
    (socket : p.socket = none) (chosen : p.helper = some (.ssl helper)) :
    Replies (hasReported p) False (p.dropConnection reason) := by
  have returns : p.dropConnection reason =
      .ok ({ p with helper := some (.ssl (helper.dropConnection reason).1) }, (helper.dropConnection reason).2) := by
    simp [dropConnection, socket, chosen, ChosenHelper.dropConnection]
  obtain ⟨recorded, once⟩ := ssl_dropConnection_once reason helper
  refine ⟨_, _, returns, .chosen _ socket rfl, ?_, ?_, ?_, by simp⟩
  · simp [Unstarted]
  · simpa [hasReported, chosen] using recorded
  · simpa [hasReported, chosen] using once

theorem dropConnection_replies (reason : SSLErrorEnum) (consistent : Consistent p) (started : ¬ Unstarted p)
    (droppable : p.helper ≠ some .unencrypted) : Replies (hasReported p) False (p.dropConnection reason) := by
  cases consistent with
  | unstarted unstarted => exact absurd unstarted started
  | peeking sock peeker socket helper installed reading waiting room callback =>
      have unreported : hasReported p = false := by simp [hasReported, helper, socket, callback]
      simp only [unreported, dropConnection, socket, helper, reading, installed]
      exact readErr_replies _ helper waiting callback
  | failed sock socket helper closed callback =>
      refine ⟨p, none, by simp [dropConnection, socket, helper, closed], .failed sock socket helper closed callback,
        started, ?_, fun _ => rfl, droppable⟩
      simp
  | chosen inner socket helper =>
      cases inner with
      | unencrypted => exact absurd helper droppable
      | ssl inner => exact ssl_dropConnection_replies reason socket helper

theorem Replies.answers {reply : Reply PeekingAcceptorHandshakeHelper} (replies : Replies before picked reply)
    (returned : reply = .ok (p', report)) : Answers before picked p' report := by
  obtain ⟨q, made, equal, answers⟩ := replies
  rw [returned] at equal
  cases equal
  exact answers

theorem dropConnection_checkFailed (reason : SSLErrorEnum) (consistent : Consistent p) :
    p.dropConnection reason = .error .checkFailed ↔ Unstarted p ∨ p.helper = some .unencrypted := by
  by_cases unstarted : Unstarted p
  · simp [dropConnection, unstarted.1, unstarted.2, unstarted]
  · by_cases unencrypted : p.helper = some .unencrypted
    · cases consistent with
      | chosen inner socket helper =>
          simp [dropConnection, socket, unencrypted, ChosenHelper.dropConnection]
      | unstarted unstarted' => exact absurd unstarted' unstarted
      | peeking sock peeker socket helper => simp [helper] at unencrypted
      | failed sock socket helper => simp [helper] at unencrypted
    · obtain ⟨p', report, returned, -⟩ := dropConnection_replies reason consistent unstarted unencrypted
      simp [returned, unstarted, unencrypted]

theorem dropConnection_answers {reason : SSLErrorEnum} (consistent : Consistent p)
    (returned : p.dropConnection reason = .ok (p', report)) : Answers (hasReported p) False p' report := by
  have droppable : ¬ (Unstarted p ∨ p.helper = some .unencrypted) := by
    rw [← dropConnection_checkFailed reason consistent, returned]
    nofun
  exact (dropConnection_replies reason consistent (fun unstarted => droppable (.inl unstarted))
    (fun unencrypted => droppable (.inr unencrypted))).answers returned

theorem event_answers {e : PeekEvent} (consistent : Consistent p) (returned : p.event e = .ok (p', report)) :
    Answers (hasReported p)
      (p.helper = some .unencrypted ∨ ∃ peeked, peeked? p e = some peeked ∧ Picks peeked p) p' report := by
  rcases event_replies e consistent with ignored | replies
  · rw [ignored] at returned
    cases returned
  · exact replies.answers returned

def startOnce (accepts : Option HandshakeResult) (p : PeekingAcceptorHandshakeHelper) :
    Reply PeekingAcceptorHandshakeHelper :=
  if Unstarted p then p.start { accepts := accepts } else .error .ignored

theorem startOnce_replies (accepts : Option HandshakeResult) (p : PeekingAcceptorHandshakeHelper) :
    startOnce accepts p = .error .ignored ∨
      Replies (hasReported p) (p.numBytes = 0 ∧ Picks [] p) (startOnce accepts p) := by
  unfold startOnce
  split
  · rename_i unstarted
    have unreported : hasReported p = false := by simp [hasReported, unstarted.1, unstarted.2]
    rw [unreported]
    exact .inr (start_replies rfl rfl unstarted.2)
  · exact .inl rfl

theorem startOnce_answers {accepts : Option HandshakeResult} (returned : startOnce accepts p = .ok (p', report)) :
    Answers (hasReported p) (p.numBytes = 0 ∧ Picks [] p) p' report := by
  rcases startOnce_replies accepts p with ignored | replies
  · rw [ignored] at returned
    cases returned
  · exact replies.answers returned

abbrev PeekingHelper := { p : PeekingAcceptorHandshakeHelper // Consistent p }

def lift (call : PeekingAcceptorHandshakeHelper → Reply PeekingAcceptorHandshakeHelper)
    (kept : ∀ p p' report, Consistent p → call p = .ok (p', report) → Consistent p') (p : PeekingHelper) :
    Reply PeekingHelper :=
  match returned : call p.1 with
  | .error stuck => .error stuck
  | .ok (p', report) => .ok (⟨p', kept p.1 p' report p.2 returned⟩, report)

section Lift
variable {call : PeekingAcceptorHandshakeHelper → Reply PeekingAcceptorHandshakeHelper}
  {kept : ∀ p p' report, Consistent p → call p = .ok (p', report) → Consistent p'} {p p' : PeekingHelper}

theorem lift_ok (returned : lift call kept p = .ok (p', report)) : call p.1 = .ok (p'.1, report) := by
  unfold lift at returned
  split at returned
  · cases returned
  · rename_i called
    cases returned
    exact called

theorem lift_error {stuck : HelperStuck} (returned : lift call kept p = .error stuck) : call p.1 = .error stuck := by
  unfold lift at returned
  split at returned
  · rename_i called
    cases returned
    exact called
  · cases returned

theorem lift_reportsOnce (answers : ∀ p p' report, Consistent p → call p = .ok (p', report) →
      ∃ picked, Answers (hasReported p) picked p' report) :
    ReportsOnce (fun p => hasReported p.1) (lift call kept) := by
  intro p p' report returned
  obtain ⟨picked, answers⟩ := answers p.1 p'.1 report p.2 (lift_ok returned)
  exact ⟨answers.recorded, answers.once⟩

end Lift

def peeking (accepts : Option HandshakeResult) : AcceptorHandshakeHelper PeekingHelper PeekEvent where
  start := lift (startOnce accepts) fun _ _ _ _ returned => (startOnce_answers returned).consistent
  dropConnection reason :=
    lift (dropConnection reason) fun _ _ _ consistent returned => (dropConnection_answers consistent returned).consistent
  event e := lift (event e) fun _ _ _ consistent returned => (event_answers consistent returned).consistent
  reported p := hasReported p.1
  start_reportsOnce := lift_reportsOnce fun _ _ _ _ returned => ⟨_, startOnce_answers returned⟩
  dropConnection_reportsOnce _ :=
    lift_reportsOnce fun _ _ _ consistent returned => ⟨_, dropConnection_answers consistent returned⟩
  event_reportsOnce _ := lift_reportsOnce fun _ _ _ consistent returned => ⟨_, event_answers consistent returned⟩

end Peeking

section Stack
open EvbHandshakeHelper

variable {accepts : Option HandshakeResult} {s s' : EvbHandshakeHelper PeekingHelper}

def stack (peekCallbacks : List PeekCallback) (numBytes : Nat) : EvbHandshakeHelper PeekingHelper :=
  { helper := some ⟨{ peekCallbacks := peekCallbacks, numBytes := numBytes }, .unstarted ⟨rfl, rfl⟩⟩ }

def Chosen (s : EvbHandshakeHelper PeekingHelper) : Prop := ∃ p ∈ s.helper, p.1.helper = some .unencrypted

def ChosenAtStart (s : EvbHandshakeHelper PeekingHelper) : Prop :=
  .start ∈ s.handshakeQueue ∧ ∃ p ∈ s.helper, p.1.numBytes = 0 ∧ Picks [] p.1

def ChosenAt (e : PeekEvent) (s : EvbHandshakeHelper PeekingHelper) : Prop :=
  ∃ p ∈ s.helper, ∃ peeked ∈ peeked? p.1 e, Picks peeked p.1

/-- The unencrypted helper is not chosen after the transition to `Dropped`, and that transition does not come
between its choice and the transition that its report makes. -/
def Unraced (s : EvbHandshakeHelper PeekingHelper) : HandshakeOp PeekEvent → Prop
  | .dropConnection _ => ¬ (s.state = .started ∧ Chosen s)
  | .handshake => ¬ (s.state = .dropped ∧ ChosenAtStart s)
  | .event e => ¬ (s.state = .dropped ∧ ChosenAt e s)
  | _ => True

instance (bytes : List UInt8) (p : PeekingAcceptorHandshakeHelper) : Decidable (Picks bytes p) :=
  inferInstanceAs (Decidable (_ = _))

instance : Decidable (Chosen s) := inferInstanceAs (Decidable (∃ p ∈ s.helper, _))

instance : Decidable (ChosenAtStart s) := inferInstanceAs (Decidable (_ ∧ ∃ p ∈ s.helper, _))

instance (e : PeekEvent) : Decidable (ChosenAt e s) := inferInstanceAs (Decidable (∃ p ∈ s.helper, ∃ q ∈ _, _))

instance : (op : HandshakeOp PeekEvent) → Decidable (Unraced s op)
  | .dropConnection _ => inferInstanceAs (Decidable (¬ (s.state = .started ∧ Chosen s)))
  | .handshake => inferInstanceAs (Decidable (¬ (s.state = .dropped ∧ ChosenAtStart s)))
  | .event e => inferInstanceAs (Decidable (¬ (s.state = .dropped ∧ ChosenAt e s)))
  | .start => isTrue trivial
  | .original => isTrue trivial

structure Droppable (s : EvbHandshakeHelper PeekingHelper) : Prop where
  started : ∀ p, s.helper = some p → Unstarted p.1 → Unbegun s
  chosen : ∀ p, s.helper = some p → p.1.helper = some .unencrypted → s.state ≠ .dropped

theorem Calls.droppable {op : HandshakeOp PeekEvent} {call : PeekingHelper → Reply PeekingHelper} {p p' : PeekingHelper}
    {report : Option Report} (droppable : Droppable s) (unraced : Unraced s op)
    (calls : Calls (peeking accepts) s op call) (there : s.helper = some p) (returned : call p = .ok (p', report)) :
    ¬ Unstarted p'.1 ∧ (p'.1.helper = some .unencrypted → s.state ≠ .dropped) := by
  cases calls with
  | start front =>
      simp only [peeking] at returned
      have answers := startOnce_answers (lift_ok returned)
      exact ⟨answers.started, fun unencrypted dropped =>
        unraced ⟨dropped, front, p, there, answers.choice unencrypted⟩⟩
  | dropConnection reason queue idle front =>
      simp only [peeking] at returned
      have answers := dropConnection_answers p.2 (lift_ok returned)
      exact ⟨answers.started, fun unencrypted => (answers.choice unencrypted).elim⟩
  | event e =>
      simp only [peeking] at returned
      have answers := event_answers p.2 (lift_ok returned)
      refine ⟨answers.started, fun unencrypted dropped => ?_⟩
      rcases answers.choice unencrypted with already | ⟨peeked, found, picks⟩
      · exact droppable.chosen p there already dropped
      · exact unraced ⟨dropped, p, there, peeked, found, picks⟩

theorem step_droppable {op : HandshakeOp PeekEvent} (droppable : Droppable s) (unraced : Unraced s op)
    (taken : step (peeking accepts) s op = .ok s') : Droppable s' := by
  have effect : HelperStep (peeking accepts) s op _ := step_helperStep op
  rw [taken] at effect
  cases effect with
  | called calls there returned after state =>
      obtain ⟨started, chosen⟩ := calls.droppable droppable unraced there returned
      refine ⟨fun p helper unstarted => ?_, fun p helper unencrypted => ?_⟩
      · rw [after] at helper
        cases helper
        exact absurd unstarted started
      · rw [after] at helper
        cases helper
        exact state ▸ chosen unencrypted
  | started helper queue state =>
      refine ⟨fun _ _ _ => .inr queue, fun p there unencrypted dropped => ?_⟩
      rcases state with state | state
      · rw [state] at dropped
        cases dropped
      · exact droppable.chosen p (helper ▸ there) unencrypted (state ▸ dropped)
  | dropping reason helper queue was state =>
      refine ⟨fun p there unstarted => ?_, fun p there unencrypted => ?_⟩
      · rcases droppable.started p (helper ▸ there) unstarted with invalid | start
        · rw [was] at invalid
          cases invalid
        · exact .inr (queue ▸ start)
      · exact absurd ⟨was, p, helper ▸ there, unencrypted⟩ unraced
  | kept kept =>
      refine ⟨fun p there unstarted => ?_, fun p there unencrypted => ?_⟩
      · exact (droppable.started p (kept.helper p there) unstarted).imp kept.state.trans kept.queue
      · exact kept.state ▸ droppable.chosen p (kept.helper p there) unencrypted
  | won helper queue was state =>
      refine ⟨fun p there unstarted => ?_, fun p there unencrypted => ?_⟩
      · rcases droppable.started p (helper ▸ there) unstarted with invalid | start
        · rw [was] at invalid
          cases invalid
        · exact .inr (queue ▸ start)
      · rw [state]
        decide

theorem Calls.ne_checkFailed {op : HandshakeOp PeekEvent} {call : PeekingHelper → Reply PeekingHelper} {p : PeekingHelper}
    (phase : Phase (peeking accepts) s) (droppable : Droppable s) (calls : Calls (peeking accepts) s op call)
    (there : s.helper = some p) : call p ≠ .error .checkFailed := by
  intro returned
  cases calls with
  | start front =>
      simp only [peeking] at returned
      have failed := lift_error returned
      rcases startOnce_replies accepts p.1 with ignored | ⟨p', report, replied, -⟩
      · rw [ignored] at failed
        cases failed
      · rw [replied] at failed
        cases failed
  | event e =>
      simp only [peeking] at returned
      have failed := lift_error returned
      rcases event_replies e p.2 with ignored | ⟨p', report, replied, -⟩
      · rw [ignored] at failed
        cases failed
      · rw [replied] at failed
        cases failed
  | dropConnection reason queue idle front =>
      simp only [peeking] at returned
      obtain ⟨dropped, begun⟩ := phase.forwards front
      rcases (dropConnection_checkFailed reason p.2).mp (lift_error returned) with unstarted | unencrypted
      · exact begun (droppable.started p there unstarted)
      · exact droppable.chosen p there unencrypted dropped

theorem stack_step_ne_checkFailed {op : HandshakeOp PeekEvent} (phase : Phase (peeking accepts) s) (droppable : Droppable s)
    (valid : s.state ≠ .invalid) :
    step (peeking accepts) s op ≠ .error .checkFailed ∧
      step (peeking accepts) s op ≠ .error (.helper .checkFailed) := by
  constructor
  · intro failed
    have fine := step_fine phase op
    rw [failed] at fine
    exact absurd (fine.symm.trans (phase.originalEvb valid)) (by decide)
  · intro failed
    have effect : HelperStep (peeking accepts) s op _ := step_helperStep op
    rw [failed] at effect
    cases effect with
    | stuck e own => exact own _ rfl
    | refused calls there returned => exact calls.ne_checkFailed phase droppable there returned

structure Sound (accepts : Option HandshakeResult) (s : EvbHandshakeHelper PeekingHelper) : Prop where
  phase : Phase (peeking accepts) s
  droppable : Droppable s
  valid : s.state ≠ .invalid

theorem step_sound (s : EvbHandshakeHelper PeekingHelper) (op : HandshakeOp PeekEvent) (s' : EvbHandshakeHelper PeekingHelper)
    (sound : Sound accepts s) (unraced : Unraced s op) (taken : step (peeking accepts) s op = .ok s') :
    Sound accepts s' :=
  ⟨step_phase sound.phase taken, step_droppable sound.droppable unraced taken, step_valid sound.valid taken⟩

theorem stack_start_sound (peekCallbacks : List PeekCallback) (numBytes : Nat) :
    Sound accepts (stack peekCallbacks numBytes).start := by
  refine ⟨.racing .started (.queued _) rfl fun _ => rfl, ⟨fun _ _ _ => .inr ?_, fun _ _ _ => nofun⟩, nofun⟩
  exact List.mem_singleton_self _

/-- No `CHECK` fails if a drop does not race with the report of the unencrypted helper. -/
theorem stack_ne_checkFailed (accepts : Option HandshakeResult) (peekCallbacks : List PeekCallback) (numBytes : Nat)
    (ops : List (HandshakeOp PeekEvent))
    (unraced : Along (step (peeking accepts)) Unraced (stack peekCallbacks numBytes) (.start :: ops)) :
    run (peeking accepts) (stack peekCallbacks numBytes) (.start :: ops) ≠ .error .checkFailed ∧
      run (peeking accepts) (stack peekCallbacks numBytes) (.start :: ops) ≠ .error (.helper .checkFailed) := by
  have sound : Sound accepts (stack peekCallbacks numBytes).start := stack_start_sound peekCallbacks numBytes
  have rest := unraced.2 _ rfl
  change Transition.run _ (stack peekCallbacks numBytes).start ops ≠ _ ∧
    Transition.run _ (stack peekCallbacks numBytes).start ops ≠ _
  constructor
  · refine run_ne_error step_sound (fun s op sound _ => ?_) sound rest
    exact (stack_step_ne_checkFailed sound.phase sound.droppable sound.valid).1
  · refine run_ne_error step_sound (fun s op sound _ => ?_) sound rest
    exact (stack_step_ne_checkFailed sound.phase sound.droppable sound.valid).2

theorem stack_ne_checkFailed_ssl :
    run (peeking none) (stack [fun _ => some .ssl] 1)
        [.start, .handshake, .event (.data [22]), .dropConnection .dropped, .original, .original, .handshake,
          .handshake] ≠ .error (.helper .checkFailed) :=
  (stack_ne_checkFailed none [fun _ => some .ssl] 1
    [.handshake, .event (.data [22]), .dropConnection .dropped, .original, .original, .handshake, .handshake]
    (by decide)).2

theorem dropped_unencrypted_checkFailed :
    run (peeking none) (stack [fun _ => some .unencrypted] 1)
      [.start, .handshake, .event (.data [71]), .dropConnection .dropped, .original, .original, .handshake,
        .handshake] = .error (.helper .checkFailed) :=
  eq_error_of_stuck? (by decide)

end Stack
end Wangle.Proof.Acceptor
