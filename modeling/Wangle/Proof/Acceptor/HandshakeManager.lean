import Wangle.Acceptor.PeekingAcceptorHandshakeHelper
import Wangle.Proof.Acceptor.PendingHandshakes

/-!
# The life of a handshake manager
-/

namespace Wangle.Proof.Acceptor
open Wangle.Acceptor Wangle.Transition ConnectionManager

/-- A handshake manager leaves the connection manager, then reports, and then does nothing any more. -/
def ReportsLast (past : List AcceptorEvent) : AcceptorEvent → Prop
  | .reported h => .left h ∈ past ∧ .reported h ∉ past
  | .usesManager h => .reported h ∉ past
  | .scheduledTimeout h => .reported h ∉ past
  | .timeoutExpired h => .reported h ∉ past
  | _ => True

def Ended (events : List AcceptorEvent) (h : Nat) : Prop :=
  .completed h ∈ events ∨ .timeoutExpired h ∈ events ∨ .dropped h ∈ events

variable {Conn : Type} {a b : Acceptor Conn} {m m' : ConnectionManager (Managed Conn)} {h : Nat}

structure HandshakesEnd (a : Acceptor Conn) : Prop where
  orderly : Lawful ReportsLast [] a.trace
  ended : ∀ h, Ended a.trace h ↔ .reported h ∈ a.trace

structure Traced (a : Acceptor Conn) : Prop extends HandshakesEnd a where
  nodup : a.timeouts.Nodup
  waiting : ∀ h ∈ a.timeouts, h ∈ a.handshakes

def Plain : AcceptorEvent → Prop
  | .completed _ => False
  | .timeoutExpired _ => False
  | .dropped _ => False
  | .reported _ => False
  | _ => True

theorem HandshakesEnd.extend (ends : HandshakesEnd a) (more : List AcceptorEvent)
    (lawful : Lawful ReportsLast a.trace more) (plain : ∀ e ∈ more, Plain e) (trace : b.trace = a.trace ++ more) : HandshakesEnd b := by
  have old (e : AcceptorEvent) (loud : ¬ Plain e) : e ∈ b.trace ↔ e ∈ a.trace := by
    rw [trace, List.mem_append]
    exact or_iff_left fun new => loud (plain e new)
  refine ⟨?_, fun h => ?_⟩
  · rw [trace, lawful_append]
    exact ⟨ends.orderly, lawful⟩
  · unfold Ended
    rw [old _ id, old _ id, old _ id, old _ id]
    exact ends.ended h

theorem HandshakesEnd.report (ends : HandshakesEnd a) {cause : AcceptorEvent} {leaving : List AcceptorEvent}
    (isEnding : cause = .completed h ∨ cause = .timeoutExpired h ∨ cause = .dropped h)
    (leaves : leaving = [.left h] ∨ leaving = [] ∧ .left h ∈ a.trace) (unreported : .reported h ∉ a.trace)
    (trace : b.trace = a.trace ++ cause :: .usesManager h :: (leaving ++ [.reported h])) : HandshakesEnd b := by
  have fresh : .reported h ∉ a.trace ++ [cause] := by
    obtain rfl | rfl | rfl := isEnding <;> simpa using unreported
  refine ⟨?_, fun k => ?_⟩
  · rw [trace, lawful_append]
    refine ⟨ends.orderly, ?_, fresh, ?_⟩
    · obtain rfl | rfl | rfl := isEnding
      · trivial
      · exact unreported
      · trivial
    · obtain rfl | ⟨rfl, left⟩ := leaves
      · exact ⟨trivial, ⟨by simp, by simpa using fresh⟩, trivial⟩
      · exact ⟨⟨by simp [left], by simpa using fresh⟩, trivial⟩
  · by_cases same : k = h
    · subst same
      refine iff_of_true ?_ (by simp [trace])
      rw [Ended, trace]
      exact isEnding.imp (fun is => by simp [is]) (.imp (fun is => by simp [is]) fun is => by simp [is])
    · have before := ends.ended k
      obtain rfl | rfl | rfl := isEnding <;> obtain rfl | ⟨rfl, -⟩ := leaves <;>
        simpa [Ended, trace, same] using before

namespace Traced

theorem extend (traced : Traced a) (more : List AcceptorEvent) (lawful : Lawful ReportsLast a.trace more)
    (plain : ∀ e ∈ more, Plain e) (trace : b.trace = a.trace ++ more) (timeouts : b.timeouts = a.timeouts)
    (handshakes : b.handshakes = a.handshakes) : Traced b := by
  refine ⟨traced.toHandshakesEnd.extend more lawful plain trace, timeouts ▸ traced.nodup, ?_⟩
  rw [timeouts, handshakes]
  exact traced.waiting

theorem scheduleTimeout (traced : Traced a) (member : h ∈ a.handshakes) (unreported : .reported h ∉ a.trace)
    (timeout : Int) : Traced (a.scheduleTimeout h timeout) := by
  refine scheduleTimeout_rule h timeout traced ⟨?_, traced.nodup.insert, fun k waits => ?_⟩
  · exact traced.toHandshakesEnd.extend [.scheduledTimeout h] ⟨unreported, trivial⟩ (by simp [Plain]) rfl
  · obtain rfl | old := List.mem_insert_iff.mp waits
    · exact member
    · exact traced.waiting k old

theorem timed (traced : Traced a) (member : h ∈ a.handshakes) (unreported : .reported h ∉ a.trace) :
    Traced (timed h a) := by
  have used : Traced (a.record (.usesManager h)) :=
    traced.extend [.usesManager h] ⟨unreported, trivial⟩ (by simp [Plain]) rfl rfl rfl
  exact used.scheduleTimeout member (by simpa [Acceptor.record] using unreported) _

theorem reset (traced : Traced a) (more : List AcceptorEvent) (lawful : Lawful ReportsLast a.trace more)
    (plain : ∀ e ∈ more, Plain e) (trace : b.trace = a.trace ++ more) (timeouts : b.timeouts = []) : Traced b :=
  ⟨traced.toHandshakesEnd.extend more lawful plain trace, by simp [timeouts], by simp [timeouts]⟩

theorem readied (traced : Traced a) (result : Report) : Traced (readied result a) := by
  refine readied_rule result traced fun nextProtocol secureTransportType _ => ?_
  exact traced.extend [.onNewConnection nextProtocol secureTransportType] ⟨trivial, trivial⟩ (by simp [Plain]) rfl rfl rfl

theorem settled (traced : Traced a) : Traced (settled a) := by
  refine settled_rule (fun _ => ?_) fun _ => traced
  exact traced.reset [.entered .done _ _, .onConnectionsDrained] ⟨trivial, trivial, trivial⟩ (by simp [Plain])
    (List.append_assoc _ _ _) rfl

theorem stopped (traced : Traced a) : Traced (stopped a) := by
  have entered : Traced (a.enter .draining) :=
    traced.extend [.entered .draining _ _] ⟨trivial, trivial⟩ (by simp [Plain]) rfl rfl rfl
  exact stopped_rule traced fun _ => entered.settled

variable [DecidableEq Conn]

theorem called (traced : Traced a) (m' : ConnectionManager (Managed Conn)) : Traced (called m' a) := by
  have replaced : Traced { a with downstreamConnectionManager := some m' } :=
    ⟨⟨traced.orderly, traced.ended⟩, traced.nodup, traced.waiting⟩
  exact called_rule (fun _ => replaced.settled) fun _ => replaced

theorem joined (traced : Traced a) (unreported : .reported a.nextHandshake ∉ a.trace)
    (m : ConnectionManager (Managed Conn)) : Traced (joined m a) := by
  have uses : ReportsLast (a.trace ++ [.started a.nextHandshake]) (.usesManager a.nextHandshake) := by
    simpa [ReportsLast] using unreported
  have joining : Traced (joining m a) := by
    refine ⟨?_, traced.nodup, fun h waits => List.mem_append_left _ (traced.waiting h waits)⟩
    exact traced.toHandshakesEnd.extend [.started a.nextHandshake, .usesManager a.nextHandshake]
      ⟨trivial, uses, trivial⟩ (by simp [Plain]) (List.append_assoc _ _ _)
  refine joining.scheduleTimeout (by simp [Acceptor.joining]) ?_ _
  simpa [Acceptor.joining] using unreported

end Traced

theorem unlinked_traced [DecidableEq Conn] {cause : AcceptorEvent} (ends : HandshakesEnd a)
    (isEnding : cause = .completed h ∨ cause = .timeoutExpired h ∨ cause = .dropped h)
    (trace : b.trace = a.trace ++ [cause]) (nodup : b.timeouts.Nodup) (waiting : ∀ k ∈ b.timeouts, k ∈ b.handshakes)
    (unreported : .reported h ∉ a.trace)
    (leaves : m.isManaged (.handshake h) = true ∨ .left h ∈ a.trace ∧ h ∉ b.timeouts) : Traced (unlinked h m b) := by
  have rest (timeouts : List Nat) (within : ∀ k ∈ timeouts, k ∈ b.timeouts) (out : h ∉ timeouts) :
      ∀ k ∈ timeouts, k ∈ b.handshakes.erase h := by
    intro k waits
    refine (List.mem_erase_of_ne ?_).mpr (waiting k (within k waits))
    rintro rfl
    exact out waits
  cases managed : m.isManaged (.handshake h) with
  | true =>
      have ended : HandshakesEnd (unlinked h m b) :=
        ends.report isEnding (.inl rfl) unreported (by simp [unlinked, gone, Acceptor.record, managed, trace])
      have timeouts : (unlinked h m b).timeouts = b.timeouts.erase h := by
        simp [unlinked, gone, Acceptor.record, managed]
      refine ⟨ended, timeouts ▸ nodup.erase h, timeouts ▸ rest _ ?_ nodup.not_mem_erase⟩
      exact fun k => List.mem_of_mem_erase
  | false =>
      obtain isManaged | ⟨left, out⟩ := leaves
      · rw [managed] at isManaged
        cases isManaged
      have ended : HandshakesEnd (unlinked h m b) :=
        ends.report isEnding (.inr ⟨rfl, left⟩) unreported (by simp [unlinked, gone, Acceptor.record, managed, trace])
      have timeouts : (unlinked h m b).timeouts = b.timeouts := by
        simp [unlinked, gone, Acceptor.record, managed]
      exact ⟨ended, timeouts ▸ nodup, timeouts ▸ rest _ (fun _ => id) out⟩

theorem Tallied.unreported [DecidableEq Conn] {events : List (Event (Managed Conn))} (tallied : Tallied events a)
    (member : h ∈ a.handshakes) : .reported h ∉ a.trace := by
  rw [tallied.handshakes] at member
  simpa using (List.mem_filter.mp member).2

/-! ## Drops -/

def Announced (a : Acceptor Conn) (past : List (Event (Managed Conn))) : Event (Managed Conn) → Prop
  | .dropConnection (.handshake h) => .removed (.handshake h) ∈ past ∨ .left h ∈ a.trace ∧ h ∉ a.timeouts
  | _ => True

theorem announced_next {e : Event (Managed Conn)} {events : List (Event (Managed Conn))}
    (lawful : Lawful (Announced a) [e] events) (trace : ∀ h, .left h ∈ a.trace → .left h ∈ b.trace)
    (timeouts : ∀ h ∈ b.timeouts, h ∈ a.timeouts)
    (told : ∀ h, e = .removed (.handshake h) → .left h ∈ b.trace ∧ h ∉ b.timeouts) :
    Lawful (Announced b) [] events := by
  refine lawful.imp fun more x announced => ?_
  unfold Announced at announced ⊢
  split
  · rename_i h
    obtain past | ⟨left, out⟩ := announced
    · obtain new | old := List.mem_cons.mp past
      · exact .inr (told h new.symm)
      · exact .inl old
    · exact .inr ⟨trace h left, fun waits => out (timeouts h waits)⟩
  · trivial

variable [DecidableEq Conn]

theorem Heard.traced {late : Nat → Bool} {e : Event (Managed Conn)} {events : List (Event (Managed Conn))}
    {reply : Except Acceptor.Fault (Acceptor Conn)} (heard : Heard late a e reply) (prompt : ∀ h, late h = false)
    (tallied : Tallied (e :: events) a) (traced : Traced a) (lawful : Lawful (Announced a) [] (e :: events)) :
    Yields (fun _ => False) (fun b => Traced b ∧ Lawful (Announced b) [] events) reply := by
  obtain ⟨first, lawful⟩ := lawful
  cases heard with
  | spared spared =>
      refine ⟨traced, announced_next lawful (fun _ => id) (fun _ => id) ?_⟩
      rintro h rfl
      exact spared.elim
  | @left h =>
      refine ⟨⟨traced.toHandshakesEnd.extend [.left h] ⟨trivial, trivial⟩ (by simp [Plain]) rfl,
        traced.nodup.erase h, fun k waits => traced.waiting k (List.mem_of_mem_erase waits)⟩,
        announced_next lawful (fun k => List.mem_append_left _) (fun k => List.mem_of_mem_erase) ?_⟩
      rintro k ⟨⟩
      exact ⟨List.mem_append_right _ (List.mem_singleton_self _), traced.nodup.not_mem_erase⟩
  | destroyed destroyed => exact id
  | late member isLate =>
      rw [prompt] at isLate
      cases isLate
  | null null => exact id
  | uncounted member none => exact id
  | @dropped h m member prompt manager pending =>
      have gone : .left h ∈ a.trace ∧ h ∉ a.timeouts := first.resolve_left List.not_mem_nil
      refine ⟨unlinked_traced (b := a.record (.dropped h)) traced.toHandshakesEnd (.inr (.inr rfl)) rfl traced.nodup
        traced.waiting (tallied.unreported member) (.inr gone), announced_next lawful ?_ ?_ nofun⟩
      · intro k left
        simp [unlinked, Acceptor.gone, Acceptor.record, left]
      · intro k waits
        simp only [unlinked, Acceptor.gone, Acceptor.record] at waits
        split at waits
        · exact List.mem_of_mem_erase waits
        · exact waits

theorem swept_traced {late : Nat → Bool} (tallied : Tallied [] a) (traced : Traced a)
    (manager : a.downstreamConnectionManager = some m) (tended : Tended m') (sweeps : Sweeps m m')
    (prompt : ∀ h, late h = false) :
    Yields (fun fault => Miscounted fault ∨ fault = .destroyed) Traced (swept late m' a) := by
  have start : Traced { a with forceShutdownInProgress := true, downstreamConnectionManager := some m' } :=
    ⟨⟨traced.orderly, traced.ended⟩, traced.nodup, traced.waiting⟩
  have announced : Lawful (Announced { a with forceShutdownInProgress := true, downstreamConnectionManager := some m' })
      [] m'.trace := by
    refine sweeps.order.imp fun more x told => ?_
    unfold Told at told
    unfold Announced
    split
    · exact .inl told
    · trivial
  have kept : Yields (fun fault => Miscounted fault ∨ fault = .destroyed)
      (fun b => Sweeping m' b [] ∧ Traced b ∧ Lawful (Announced b) [] []) (swept late m' a) := by
    refine swept_rule (I := fun b events => Sweeping m' b events ∧ Traced b ∧ Lawful (Announced b) [] events) ?_
      ⟨sweeping_start tallied manager tended sweeps, start, announced⟩
    rintro b e events reply ⟨sweeping, traced, lawful⟩ heard
    have both := (heard.sweeping prompt sweeping).and (heard.traced prompt sweeping.tallied traced lawful)
    exact both.fewer fun _ => .inl
  exact kept.imp fun b holds => holds.2.1

/-! ## Operations -/

theorem Reported.traced {cause : AcceptorEvent} {result : Report} {reply : Except Acceptor.Fault (Acceptor Conn)}
    (reported : Reported h result b reply) (steady : Steady a) (tallied : Tallied [] a) (ends : HandshakesEnd a)
    (isEnding : cause = .completed h ∨ cause = .timeoutExpired h ∨ cause = .dropped h)
    (trace : b.trace = a.trace ++ [cause]) (nodup : b.timeouts.Nodup) (waiting : ∀ k ∈ b.timeouts, k ∈ b.handshakes)
    (manager : b.downstreamConnectionManager = a.downstreamConnectionManager) (member : h ∈ a.handshakes) :
    Yields (· = .destroyed) Traced reply := by
  cases reported with
  | null null => exact nofun
  | uncounted none => exact nofun
  | @done m present pending =>
      rw [manager] at present
      have listed := (steady.tended m present).wellFormed.toListed
      have managed := (listed.managed _).mpr ((tallied.mem_conns present h).mpr member)
      have unlinked := unlinked_traced ends isEnding trace nodup waiting (tallied.unreported member) (.inl managed)
      exact (unlinked.readied result).settled

def completesAtOnce : AcceptorOp Conn → Bool
  | .connectionAccepted shouldDoSSL result => shouldDoSSL && result.isSome
  | _ => false

/-- No helper reports before its `start` has returned. -/
def Patient (a : Acceptor Conn) (op : AcceptorOp Conn) : Prop :=
  completesAtOnce op = true → a.accConfig.maxConcurrentSSLHandshakes < a.numPendingSSLConns + 1

instance (a : Acceptor Conn) (op : AcceptorOp Conn) : Decidable (Patient a op) := inferInstanceAs (Decidable (_ → _))

theorem Outcome.traced {op : AcceptorOp Conn} {reply : Except Acceptor.Fault (Acceptor Conn)}
    (ending : Outcome a op reply) (steady : Steady a) (tallied : Tallied [] a) (traced : Traced a) (prompt : Prompt op)
    (patient : Patient a op) : Yields (· = .destroyed) Traced reply := by
  cases ending with
  | failed innocent =>
      rintro rfl
      exact innocent
  | ready => exact traced.readied (.connectionReady "" .none none)
  | refused full => exact traced.settled
  | unmanaged room null => exact nofun
  | @started m room manager =>
      have joined := tallied.joined manager (steady.tended m manager)
      have member : a.nextHandshake ∈ (Acceptor.joined m a).handshakes := by simp [joined_handshakes]
      have fresh : .reported a.nextHandshake ∉ a.trace := fun inside => Nat.lt_irrefl _ (tallied.known _ (.inr inside))
      exact (traced.joined fresh m).timed member (joined.unreported member)
  | startedAtOnce room manager left => exact absurd (patient rfl) (Nat.not_lt.mpr room)
  | completed member reported =>
      exact reported.traced steady tallied traced.toHandshakesEnd (.inl rfl) rfl traced.nodup traced.waiting rfl member
  | destroyed scheduled destroyed => exact absurd (traced.waiting _ scheduled) destroyed
  | expiredLate scheduled member => cases prompt
  | expired scheduled member reported =>
      exact reported.traced steady tallied traced.toHandshakesEnd (.inr (.inl rfl)) rfl (traced.nodup.erase _)
        (fun k waits => traced.waiting k (List.mem_of_mem_erase waits)) rfl member
  | ignored => exact traced
  | managed manager tended spares => exact traced.called _
  | stoppedAgain null => exact traced.stopped
  | stopped manager tended spares => exact (traced.called _).stopped
  | dropped manager tended sweeps =>
      exact (swept_traced tallied traced manager tended sweeps prompt).fewer fun _ => .inr
  | droppedAllAgain null pending =>
      exact traced.extend [.entered .done _ _, .onConnectionsDrained] ⟨trivial, trivial, trivial⟩ (by simp [Plain])
        (List.append_assoc _ _ _) rfl rfl
  | droppedAllUncounted null pending => exact nofun
  | droppedAllFailed manager tended sweeps failed =>
      have heard := swept_traced tallied traced manager tended sweeps prompt
      rw [failed] at heard
      exact fun destroyed => heard (.inr destroyed)
  | droppedAllPending manager tended sweeps empty heard pending => exact nofun
  | droppedAll manager tended sweeps empty heard pending =>
      have swept := (swept_traced tallied traced manager tended sweeps prompt).of_ok heard
      exact swept.reset [.entered .done _ _, .onConnectionsDrained] ⟨trivial, trivial, trivial⟩ (by simp [Plain])
        (List.append_assoc _ _ _) rfl

theorem step_traced {op : AcceptorOp Conn} (steady : Steady a) (tallied : Tallied [] a) (traced : Traced a)
    (prompt : Prompt op) (patient : Patient a op) :
    Yields (fun fault => fault = .pendingCheck ∨ fault = .destroyed) (fun b => Tallied [] b ∧ Traced b) (a.step op) := by
  by_cases welcome : Welcome a op
  · have ending := outcome steady op
    have both := (ending.tallied steady tallied welcome prompt).and (ending.traced steady tallied traced prompt patient)
    exact both.fewer fun fault bad => bad.imp .inl id
  · rw [step_of_not_welcome welcome]
    exact nofun

/-- As long as dropped handshakes report at once, and no helper reports before its `start` has returned, every
handshake manager leaves the connection manager, reports once, and does nothing any more. -/
theorem run_handshakes_end (config : AcceptorConfig) (gracefulShutdownTimeout : Int) (ops : List (AcceptorOp Conn))
    (prompt : ∀ op ∈ ops, Prompt op)
    (patient : Along Acceptor.step Patient (Acceptor.initialised config gracefulShutdownTimeout) ops) :
    Acceptor.run (Acceptor.initialised config gracefulShutdownTimeout) ops ≠ .error .pendingCheck ∧
      Acceptor.run (Acceptor.initialised config gracefulShutdownTimeout) ops ≠ .error .destroyed ∧
      ∀ a, Acceptor.run (Acceptor.initialised config gracefulShutdownTimeout) ops = .ok a → HandshakesEnd a := by
  have start : Traced (Acceptor.initialised config gracefulShutdownTimeout : Acceptor Conn) :=
    ⟨⟨trivial, fun h => by simp [Ended, Acceptor.initialised, Acceptor.initDownstreamConnectionManager]⟩,
      List.nodup_nil, nofun⟩
  have kept := run_yields (I := fun a => Tallied [] a ∧ Traced a)
    (fun a op underway holds permitted =>
      step_traced underway.steady holds.1 holds.2 permitted.2 permitted.1)
    ⟨initialised_tallied config gracefulShutdownTimeout, start⟩ (along_and patient prompt)
  exact ⟨kept.ne_error (.inl rfl), kept.ne_error (.inr rfl), fun a reached => (kept.of_ok reached).2.toHandshakesEnd⟩

theorem run_handshakes_end_timeout :
    ∃ a, Acceptor.run (Acceptor.initialised {} 5000 : Acceptor Nat)
        [.connectionAccepted true none, .connectionAccepted true none, .connectionAccepted true none,
          .handshakeCompleted 1 (.connectionReady "h2" .tls none), .handshakeTimeout 0 false,
          .dropConnections id (fun _ => []) fun _ => false] = .ok a ∧
      [.reported 0, .reported 1, .reported 2] ⊆ a.trace ∧ HandshakesEnd a :=
  (Ends.exists_ok (Q := fun a => [.reported 0, .reported 1, .reported 2] ⊆ a.trace) (by decide)).imp
    fun a ⟨reached, reports⟩ =>
      ⟨reached, reports, (run_handshakes_end {} 5000 _ (by simp [Prompt]) (by decide)).2.2 a reached⟩

/-- No bytes need to be peeked at, so the connection is ready before the helper's `start` has returned. Then the
handshake manager schedules its timeout after its report, and the timer calls what has been destroyed. -/
theorem peeked_nothing_used_after_report :
    ∃ p result a, PeekingAcceptorHandshakeHelper.start {}
        { peekCallbacks := [fun _ => some .unencrypted], numBytes := 0 } = .ok (p, some result) ∧
      Acceptor.run (Acceptor.initialised {} 5000 : Acceptor Nat) [.connectionAccepted true (some result)] = .ok a ∧
      ¬ HandshakesEnd a ∧ a.step (.handshakeTimeout 0 false) = .error .destroyed := by
  refine ⟨_, _, _, rfl, rfl, fun ends => ?_, rfl⟩
  have permitted : ReportsLast [.started 0, .usesManager 0, .scheduledTimeout 0, .completed 0, .usesManager 0, .left 0,
      .reported 0, .onNewConnection "" .none] (.usesManager 0) :=
    ends.orderly.permitted rfl
  exact permitted (by decide)

end Wangle.Proof.Acceptor
