import Wangle.Proof.Acceptor.Lifecycle

/-!
# The number of pending handshakes
-/

namespace Wangle.Proof.Acceptor
open Wangle.Acceptor ConnectionManager
open Wangle.Transition hiding run

/-! ## Handshakes in the trace -/

def startedHandshake : AcceptorEvent → Option Nat
  | .started h => some h
  | _ => none

def pendingHandshakes (events : List AcceptorEvent) : List Nat :=
  (events.filterMap startedHandshake).filter (.reported · ∉ events)

def Silent : AcceptorEvent → Prop
  | .started _ => False
  | .reported _ => False
  | _ => True

section Trace
variable {events more : List AcceptorEvent} {h : Nat}

theorem not_started_of_silent (silent : ∀ e ∈ more, Silent e) : more.filterMap startedHandshake = [] := by
  rw [List.filterMap_eq_nil_iff]
  intro e member
  have quiet := silent e member
  cases e <;> first | exact quiet.elim | rfl

theorem pendingHandshakes_silent (silent : ∀ e ∈ more, Silent e) :
    pendingHandshakes (events ++ more) = pendingHandshakes events := by
  have unreported : ∀ h, .reported h ∉ more := fun h member => silent _ member
  unfold pendingHandshakes
  rw [List.filterMap_append, not_started_of_silent silent, List.append_nil]
  refine List.filter_congr fun h _ => ?_
  simp [unreported]

theorem pendingHandshakes_started (fresh : .reported h ∉ events) :
    pendingHandshakes (events ++ [.started h]) = pendingHandshakes events ++ [h] := by
  simp [pendingHandshakes, startedHandshake, fresh]

theorem pendingHandshakes_reported :
    pendingHandshakes (events ++ [.reported h]) = (pendingHandshakes events).filter (· != h) := by
  unfold pendingHandshakes
  rw [List.filterMap_append, List.filter_filter]
  simp only [List.filterMap_cons, startedHandshake, List.filterMap_nil, List.append_nil]
  refine List.filter_congr fun k _ => ?_
  by_cases same : k = h
  · simp [same]
  · simp [same]

theorem started_of_mem_pendingHandshakes (pending : h ∈ pendingHandshakes events) : .started h ∈ events := by
  obtain ⟨e, member, equal⟩ := List.mem_filterMap.mp (List.mem_filter.mp pending).1
  cases e with
  | started k =>
      cases equal
      exact member
  | _ => cases equal

end Trace

/-! ## The invariant -/

theorem counts_of_mem_iff {α β : Type} [DecidableEq α] [DecidableEq β] {xs : List α} {ys : List β} {x : α} {y : β}
    (nodup : xs.Nodup) (nodup' : ys.Nodup) (same : x ∈ xs ↔ y ∈ ys) : xs.count x = ys.count y := by
  rw [nodup.count, nodup'.count]
  simp [same]

variable {Conn : Type} [DecidableEq Conn] {a b : Acceptor Conn} {m m' : ConnectionManager (Managed Conn)}

/-- The counter, the handshake managers, the trace and the list of connections agree, but for the handshake
managers that the connection manager has yet to drop according to `events`. -/
structure Tallied (events : List (Event (Managed Conn))) (a : Acceptor Conn) : Prop where
  handshakes : a.handshakes = pendingHandshakes a.trace
  nodup : a.handshakes.Nodup
  count : a.numPendingSSLConns = a.handshakes.length
  known : ∀ h, .started h ∈ a.trace ∨ .reported h ∈ a.trace → h < a.nextHandshake
  listed : ∀ m, a.downstreamConnectionManager = some m → ∀ h,
    a.handshakes.count h = m.conns.count (.handshake h) + events.count (.dropConnection (.handshake h))
  closed : a.downstreamConnectionManager = none → a.handshakes = []

namespace Tallied
variable {events rest : List (Event (Managed Conn))}

theorem fresh (tallied : Tallied events a) : a.nextHandshake ∉ a.handshakes := by
  intro member
  rw [tallied.handshakes] at member
  exact Nat.lt_irrefl _ (tallied.known _ (.inl (started_of_mem_pendingHandshakes member)))

theorem extend (tallied : Tallied events a) (more : List AcceptorEvent) (silent : ∀ e ∈ more, Silent e)
    (trace : b.trace = a.trace ++ more) (handshakes : b.handshakes = a.handshakes)
    (pending : b.numPendingSSLConns = a.numPendingSSLConns) (next : b.nextHandshake = a.nextHandshake)
    (manager : b.downstreamConnectionManager = a.downstreamConnectionManager) : Tallied events b := by
  refine ⟨?_, handshakes ▸ tallied.nodup, ?_, ?_, ?_, ?_⟩
  · rw [handshakes, trace, pendingHandshakes_silent silent, tallied.handshakes]
  · rw [pending, handshakes, tallied.count]
  · intro h event
    rw [trace, List.mem_append, List.mem_append] at event
    rw [next]
    obtain (old | new) | (old | new) := event
    · exact tallied.known h (.inl old)
    · exact (silent _ new).elim
    · exact tallied.known h (.inr old)
    · exact (silent _ new).elim
  · rw [handshakes, manager]
    exact tallied.listed
  · rw [handshakes, manager]
    exact tallied.closed

theorem record (tallied : Tallied events a) (e : AcceptorEvent) (silent : Silent e) : Tallied events (a.record e) :=
  tallied.extend [e] (by simpa using silent) rfl rfl rfl rfl rfl

theorem managed (tallied : Tallied events a)
    (listed : ∀ h, a.handshakes.count h = m'.conns.count (.handshake h) + rest.count (.dropConnection (.handshake h)))
    (force : Bool) :
    Tallied rest { a with forceShutdownInProgress := force, downstreamConnectionManager := some m' } := by
  refine ⟨tallied.handshakes, tallied.nodup, tallied.count, tallied.known, ?_, nofun⟩
  intro m present h
  cases present
  exact listed h

theorem finish (tallied : Tallied [] a) (nothing : a.numPendingSSLConns = 0) {connections pending : Nat}
    (trace : b.trace = a.trace ++ [.entered .done connections pending, .onConnectionsDrained])
    (handshakes : b.handshakes = a.handshakes) (count : b.numPendingSSLConns = a.numPendingSSLConns)
    (next : b.nextHandshake = a.nextHandshake) (null : b.downstreamConnectionManager = none) : Tallied [] b := by
  have empty : a.handshakes = [] := List.eq_nil_of_length_eq_zero (tallied.count.symm.trans nothing)
  have reset : Tallied [] ({ a with downstreamConnectionManager := none } : Acceptor Conn) :=
    ⟨tallied.handshakes, tallied.nodup, tallied.count, tallied.known, by simp, fun _ => empty⟩
  exact reset.extend _ (by simp [Silent]) trace handshakes count next null

theorem settled (tallied : Tallied [] a) : Tallied [] (settled a) := by
  refine settled_rule (fun drainable => ?_) fun _ => tallied
  exact tallied.finish drainable.2.2.2 (List.append_assoc _ _ _) rfl rfl rfl rfl

theorem unlinked {h : Nat} (tallied : Tallied events a) (member : h ∈ a.handshakes) (listed : Listed m)
    (counts : ∀ k, (a.handshakes.erase h).count k =
      (m.conns.erase (.handshake h)).count (.handshake k) + rest.count (.dropConnection (.handshake k))) :
    Tallied rest (unlinked h m a) := by
  have started : .started h ∈ a.trace := started_of_mem_pendingHandshakes (tallied.handshakes ▸ member)
  have silent : ∀ e ∈ AcceptorEvent.usesManager h :: (if m.isManaged (.handshake h) then [.left h] else []),
      Silent e := by
    split <;> simp [Silent]
  have trace : (Acceptor.unlinked h m a).trace =
      a.trace ++ (.usesManager h :: if m.isManaged (.handshake h) then [.left h] else []) ++ [.reported h] := by
    simp [Acceptor.unlinked, Acceptor.record, gone]
  have loud (e : AcceptorEvent) (loud : ¬ Silent e) (inside : e ∈ (Acceptor.unlinked h m a).trace) :
      e ∈ a.trace ∨ e = .reported h := by
    rw [trace] at inside
    obtain front | last := List.mem_append.mp inside
    · exact .inl ((List.mem_append.mp front).resolve_right fun new => loud (silent e new))
    · exact .inr (List.mem_singleton.mp last)
  refine ⟨?_, tallied.nodup.erase h, ?_, ?_, ?_, by simp [Acceptor.unlinked, Acceptor.record, gone]⟩
  · rw [trace, pendingHandshakes_reported, pendingHandshakes_silent silent, ← tallied.handshakes]
    exact tallied.nodup.erase_eq_filter h
  · have pending := tallied.count
    have length := List.length_erase_of_mem member
    simp only [Acceptor.unlinked, Acceptor.record]
    omega
  · intro k event
    obtain inside | inside := event
    · obtain old | equal := loud _ id inside
      · exact tallied.known k (.inl old)
      · cases equal
    · obtain old | equal := loud _ id inside
      · exact tallied.known k (.inr old)
      · cases equal
        exact tallied.known h (.inl started)
  · intro m' present k
    cases present
    rw [removeConnection_conns (s := { m with trace := [] }) ⟨listed.nodup, listed.managed⟩]
    exact counts k

theorem listen {e : Event (Managed Conn)} (tallied : Tallied (e :: rest) a)
    (other : ∀ h, e ≠ .dropConnection (.handshake h)) : Tallied rest a := by
  refine { tallied with listed := fun m manager h => ?_ }
  rw [tallied.listed m manager h, List.count_cons_of_ne (other h)]

theorem mem_of_dropped {h : Nat} (tallied : Tallied (.dropConnection (.handshake h) :: rest) a)
    (manager : a.downstreamConnectionManager = some m) : h ∈ a.handshakes := by
  have counts := tallied.listed m manager h
  rw [List.count_cons_self] at counts
  exact List.count_pos_iff.mp (by omega)

theorem pending_pos {h : Nat} (tallied : Tallied events a) (member : h ∈ a.handshakes) : 0 < a.numPendingSSLConns := by
  rw [tallied.count]
  exact List.length_pos_of_mem member

theorem mem_conns (tallied : Tallied [] a) (manager : a.downstreamConnectionManager = some m) (h : Nat) :
    .handshake h ∈ m.conns ↔ h ∈ a.handshakes := by
  rw [← List.count_pos_iff, ← List.count_pos_iff (l := a.handshakes), tallied.listed m manager h]
  simp

theorem pending_of_empty (tallied : Tallied [] a) (manager : a.downstreamConnectionManager = some m)
    (empty : m.conns = []) : a.numPendingSSLConns = 0 := by
  have none : a.handshakes = [] := List.eq_nil_iff_forall_not_mem.mpr fun h member => by
    have listed := (tallied.mem_conns manager h).mpr member
    rw [empty] at listed
    cases listed
  rw [tallied.count, none]
  rfl

theorem reported {h : Nat} (tallied : Tallied [] a) (member : h ∈ a.handshakes) (listed : Listed m)
    (manager : a.downstreamConnectionManager = some m) : Tallied [] (Acceptor.unlinked h m a) := by
  refine tallied.unlinked member listed fun k => ?_
  have counts := tallied.listed m manager k
  by_cases same : k = h
  · subst same
    simpa using congrArg (· - 1) counts
  · have other : Managed.handshake k ≠ (Managed.handshake h : Managed Conn) := by simpa using same
    rw [List.count_erase_of_ne same, List.count_erase_of_ne other]
    exact counts

theorem dropped {h : Nat} (tallied : Tallied (.dropConnection (.handshake h) :: rest) a) (member : h ∈ a.handshakes)
    (listed : Listed m) (manager : a.downstreamConnectionManager = some m) :
    Tallied rest (Acceptor.unlinked h m a) := by
  refine tallied.unlinked member listed fun k => ?_
  have counts := tallied.listed m manager k
  by_cases same : k = h
  · subst same
    have once := List.nodup_iff_count_le_one.mp tallied.nodup k
    rw [List.count_cons_self] at counts
    rw [List.count_erase_self, List.count_erase_self]
    omega
  · have other : Managed.handshake k ≠ (Managed.handshake h : Managed Conn) := by simpa using same
    rw [List.count_erase_of_ne same, List.count_erase_of_ne other]
    simpa [Ne.symm same] using counts

theorem readied (tallied : Tallied events a) (result : Report) : Tallied events (readied result a) :=
  readied_rule result tallied fun _ _ _ => tallied.record _ trivial

theorem scheduleTimeout (tallied : Tallied events a) (h : Nat) (timeout : Int) :
    Tallied events (a.scheduleTimeout h timeout) :=
  scheduleTimeout_rule h timeout tallied
    (tallied.extend [.scheduledTimeout h] (by simp [Silent]) rfl rfl rfl rfl rfl)

theorem timed (tallied : Tallied events a) (h : Nat) : Tallied events (timed h a) :=
  (tallied.record (.usesManager h) trivial).scheduleTimeout h _

theorem stopped (tallied : Tallied [] a) : Tallied [] (stopped a) := by
  have entered : Tallied [] (a.enter .draining) :=
    tallied.extend [.entered .draining a.getNumConnections a.numPendingSSLConns] (by simp [Silent]) rfl rfl rfl rfl rfl
  exact stopped_rule tallied fun _ => entered.settled

theorem joined (tallied : Tallied [] a) (manager : a.downstreamConnectionManager = some m) (tended : Tended m) :
    Tallied [] (joined m a) := by
  have hosts := host_hosts tended a.nextHandshake
  have unreported : .reported a.nextHandshake ∉ a.trace := fun inside =>
    Nat.lt_irrefl _ (tallied.known _ (.inr inside))
  have nodup : (a.handshakes ++ [a.nextHandshake]).Nodup := by
    refine List.nodup_append.mpr ⟨tallied.nodup, List.nodup_singleton _, ?_⟩
    rintro h member k last rfl
    rw [List.mem_singleton.mp last] at member
    exact tallied.fresh member
  have joining : Tallied [] (joining m a) := by
    refine ⟨?_, nodup, ?_, ?_, ?_, nofun⟩
    · simp only [Acceptor.joining]
      rw [pendingHandshakes_silent (by simp [Silent]), pendingHandshakes_started unreported, ← tallied.handshakes]
    · simp [Acceptor.joining, tallied.count]
    · intro h event
      have old : h = a.nextHandshake ∨ .started h ∈ a.trace ∨ .reported h ∈ a.trace := by
        simpa [Acceptor.joining, or_comm, or_left_comm, or_assoc] using event
      obtain rfl | old := old
      · exact Nat.lt_succ_self _
      · exact Nat.lt_succ_of_lt (tallied.known h old)
    · intro m' present h
      cases present
      refine counts_of_mem_iff nodup hosts.nodup ?_
      rw [hosts.conns, tallied.mem_conns manager]
      simp [Acceptor.joining, or_comm]
  exact joining.scheduleTimeout _ _

theorem called (tallied : Tallied [] a) (manager : a.downstreamConnectionManager = some m) (spares : Spares m m') :
    Tallied [] (called m' a) := by
  have listed : ∀ h, a.handshakes.count h = m'.conns.count (.handshake h) := fun h => by
    refine counts_of_mem_iff tallied.nodup spares.nodup ?_
    rw [spares.handshakes, tallied.mem_conns manager]
  have replaced : Tallied [] { a with downstreamConnectionManager := some m' } :=
    tallied.managed (by simpa using listed) a.forceShutdownInProgress
  exact called_rule (fun _ => replaced.settled) fun _ => replaced

end Tallied

/-! ## Operations -/

/-- A helper that is told to drop its connection reports before it returns. -/
def Prompt : AcceptorOp Conn → Prop
  | .handshakeTimeout _ late => late = false
  | .dropConnections _ _ late => ∀ h, late h = false
  | .dropAllConnections _ late => ∀ h, late h = false
  | _ => True

def startsHandshake : AcceptorOp Conn → Bool
  | .connectionAccepted shouldDoSSL _ => shouldDoSSL
  | _ => false

/-- No handshake is begun without a connection manager. -/
def Welcome (a : Acceptor Conn) (op : AcceptorOp Conn) : Prop :=
  startsHandshake op = true → a.numPendingSSLConns + 1 ≤ a.accConfig.maxConcurrentSSLHandshakes →
    a.downstreamConnectionManager.isSome = true

instance (a : Acceptor Conn) (op : AcceptorOp Conn) : Decidable (Welcome a op) :=
  inferInstanceAs (Decidable (_ → _ → _))

def Miscounted (fault : Acceptor.Fault) : Prop := fault = .pendingCheck ∨ fault = .nullManager

structure Sweeping (m' : ConnectionManager (Managed Conn)) (a : Acceptor Conn) (events : List (Event (Managed Conn))) :
    Prop where
  tallied : Tallied events a
  manager : ∃ left, a.downstreamConnectionManager = some left ∧ Tended left ∧ (m'.conns = [] → left.conns = [])

theorem Heard.sweeping {late : Nat → Bool} {e : Event (Managed Conn)} {events : List (Event (Managed Conn))}
    {reply : Except Acceptor.Fault (Acceptor Conn)} (heard : Heard late a e reply) (prompt : ∀ h, late h = false)
    (sweeping : Sweeping m' a (e :: events)) :
    Yields (fun fault => Miscounted fault ∨ fault = .destroyed) (Sweeping m' · events) reply := by
  obtain ⟨tallied, left, manager, tended, empty⟩ := sweeping
  cases heard with
  | spared spared =>
      refine ⟨tallied.listen ?_, left, manager, tended, empty⟩
      rintro h rfl
      exact spared
  | @left h =>
      refine ⟨?_, left, manager, tended, empty⟩
      exact (tallied.listen nofun).extend [.left h] (by simp [Silent]) rfl rfl rfl rfl rfl
  | destroyed destroyed => exact absurd (tallied.mem_of_dropped manager) destroyed
  | late member isLate =>
      rw [prompt] at isLate
      cases isLate
  | null null =>
      rw [manager] at null
      cases null
  | uncounted member none => exact absurd none (Nat.ne_of_gt (tallied.pending_pos member))
  | @dropped h host member prompt present pending =>
      rw [manager] at present
      cases present
      have recorded := tallied.record (.dropped h) trivial
      refine ⟨recorded.dropped member tended.wellFormed.toListed manager, _, rfl, tended.removed h, fun none => ?_⟩
      rw [removeConnection_conns (s := { left with trace := [] }) tended.quiet.wellFormed.toListed, empty none]
      rfl

section Sweep
variable (tallied : Tallied [] a) (manager : a.downstreamConnectionManager = some m) (tended : Tended m')
  (sweeps : Sweeps m m')
include tallied manager tended sweeps

theorem sweeping_start :
    Sweeping m' { a with forceShutdownInProgress := true, downstreamConnectionManager := some m' } m'.trace := by
  refine ⟨tallied.managed (fun h => ?_) true, m', rfl, tended, id⟩
  rw [tallied.listed m manager, sweeps.count]
  rfl

theorem swept_tallied {late : Nat → Bool} (prompt : ∀ h, late h = false) :
    Yields (fun fault => Miscounted fault ∨ fault = .destroyed) (Sweeping m' · []) (swept late m' a) :=
  swept_rule (fun _ _ _ _ sweeping heard => heard.sweeping prompt sweeping)
    (sweeping_start tallied manager tended sweeps)

end Sweep

theorem Reported.tallied {h : Nat} {result : Report} {reply : Except Acceptor.Fault (Acceptor Conn)}
    (reported : Reported h result a reply) (tallied : Tallied [] a)
    (tended : ∀ m, a.downstreamConnectionManager = some m → Tended m) (member : h ∈ a.handshakes) :
    Yields Miscounted (Tallied []) reply := by
  cases reported with
  | null null =>
      rw [tallied.closed null] at member
      cases member
  | uncounted none => exact absurd none (Nat.ne_of_gt (tallied.pending_pos member))
  | done manager pending =>
      have listed := (tended _ manager).wellFormed.toListed
      exact ((tallied.reported member listed manager).readied result).settled

theorem Outcome.tallied {op : AcceptorOp Conn} {reply : Except Acceptor.Fault (Acceptor Conn)}
    (ending : Outcome a op reply) (steady : Steady a) (tallied : Tallied [] a) (welcome : Welcome a op)
    (prompt : Prompt op) : Yields Miscounted (Tallied []) reply := by
  have elapsed (h : Nat) : Tallied [] (elapsed h a) :=
    tallied.extend [.timeoutExpired h] (by simp [Silent]) rfl rfl rfl rfl rfl
  cases ending with
  | failed innocent =>
      rintro (rfl | rfl)
      · exact innocent
      · exact innocent
  | ready => exact tallied.readied (.connectionReady "" .none none)
  | refused full => exact tallied.settled
  | unmanaged room null =>
      have present := welcome rfl room
      rw [null] at present
      cases present
  | started room manager => exact (tallied.joined manager (steady.tended _ manager)).timed _
  | @startedAtOnce m m' result room manager left =>
      have tended := steady.tended m manager
      have completed := (tallied.joined manager tended).record (.completed a.nextHandshake) trivial
      have member : a.nextHandshake ∈ (joined m a).handshakes := by simp [joined_handshakes]
      have listed := (host_hosts tended a.nextHandshake).toListed
      exact ((completed.reported member listed (scheduleTimeout_manager _ _ _)).readied result).settled.timed _
  | completed member reported => exact reported.tallied (tallied.record _ trivial) steady.tended member
  | destroyed scheduled destroyed =>
      rintro (impossible | impossible)
      · cases impossible
      · cases impossible
  | expiredLate scheduled member => cases prompt
  | expired scheduled member reported => exact reported.tallied (elapsed _) steady.tended member
  | ignored => exact tallied
  | managed manager tended spares => exact tallied.called manager spares
  | stoppedAgain null => exact tallied.stopped
  | stopped manager tended spares => exact (tallied.called manager spares).stopped
  | dropped manager tended sweeps =>
      exact ((swept_tallied tallied manager tended sweeps prompt).fewer fun _ => .inl).imp fun b kept => kept.tallied
  | droppedAllAgain null pending =>
      exact tallied.finish pending (List.append_assoc _ _ _) rfl rfl rfl null
  | droppedAllUncounted null pending =>
      rw [tallied.count, tallied.closed null] at pending
      exact absurd rfl pending
  | droppedAllFailed manager tended sweeps failed =>
      have heard := swept_tallied tallied manager tended sweeps prompt
      rw [failed] at heard
      exact fun miscounted => heard (.inl miscounted)
  | droppedAllPending manager tended sweeps empty heard pending =>
      obtain ⟨tallied, left, present, -, none⟩ := (swept_tallied tallied manager tended sweeps prompt).of_ok heard
      exact absurd (tallied.pending_of_empty present (none empty)) pending
  | droppedAll manager tended sweeps empty heard pending =>
      have tallied := ((swept_tallied tallied manager tended sweeps prompt).of_ok heard).tallied
      exact tallied.finish pending (List.append_assoc _ _ _) rfl rfl rfl rfl

theorem step_of_not_welcome {op : AcceptorOp Conn} (unwelcome : ¬ Welcome a op) : a.step op = .error .nullManager := by
  unfold Welcome at unwelcome
  simp only [Classical.not_imp, Bool.not_eq_true, Option.isSome_eq_false_iff, Option.isNone_iff_eq_none] at unwelcome
  obtain ⟨starts, room, null⟩ := unwelcome
  cases op with
  | connectionAccepted shouldDoSSL result =>
      cases starts
      exact processEstablishedConnection_null room null result
  | _ => cases starts

theorem initialised_tallied (config : AcceptorConfig) (gracefulShutdownTimeout : Int) :
    Tallied [] (Acceptor.initialised config gracefulShutdownTimeout : Acceptor Conn) := by
  refine ⟨rfl, List.nodup_nil, rfl, by simp [Acceptor.initialised, Acceptor.initDownstreamConnectionManager], ?_, nofun⟩
  intro m present h
  cases present
  rfl

/-- As long as dropped handshakes report at once, the counter is right, its checks hold and no handshake manager
meets a null connection manager, exactly in the runs in which no handshake is begun without one. -/
theorem run_counted_iff (config : AcceptorConfig) (gracefulShutdownTimeout : Int) (ops : List (AcceptorOp Conn))
    (prompt : ∀ op ∈ ops, Prompt op) :
    (Acceptor.run (Acceptor.initialised config gracefulShutdownTimeout) ops ≠ .error .pendingCheck ∧
      Acceptor.run (Acceptor.initialised config gracefulShutdownTimeout) ops ≠ .error .nullManager ∧
      ∀ front a, front <+: ops → Acceptor.run (Acceptor.initialised config gracefulShutdownTimeout) front = .ok a →
        a.numPendingSSLConns = (pendingHandshakes a.trace).length) ↔
      Along Acceptor.step Welcome (Acceptor.initialised config gracefulShutdownTimeout) ops := by
  have start : Tallied [] (Acceptor.initialised config gracefulShutdownTimeout : Acceptor Conn) :=
    initialised_tallied config gracefulShutdownTimeout
  constructor
  · rintro ⟨-, good, -⟩
    refine along_of_ne_error (I := fun a => Underway a ∧ Tallied [] a) ?_ (fun a op _ => step_of_not_welcome)
      ⟨initialised_underway config gracefulShutdownTimeout, start⟩ prompt good
    rintro a op a' ⟨underway, tallied⟩ welcome prompt taken
    have ending := outcome underway.steady op
    exact ⟨(step_safely a op underway).of_ok taken,
      (ending.tallied underway.steady tallied welcome prompt).of_ok taken⟩
  · intro welcome
    have kept {front : List (AcceptorOp Conn)} (isFront : front <+: ops) : Yields Miscounted (Tallied [])
        (Acceptor.run (Acceptor.initialised config gracefulShutdownTimeout) front) := by
      obtain ⟨rest, rfl⟩ := isFront
      have promptFront : ∀ op ∈ front, Prompt op := fun op member => prompt op (List.mem_append_left _ member)
      exact run_yields (fun a op underway tallied permitted =>
        (outcome underway.steady op).tallied underway.steady tallied permitted.1 permitted.2) start
        (along_and (along_append welcome) promptFront)
    have whole := kept (List.prefix_refl ops)
    refine ⟨whole.ne_error (.inl rfl), whole.ne_error (.inr rfl), fun front a isFront reached => ?_⟩
    have tallied := (kept isFront).of_ok reached
    rw [tallied.count, tallied.handshakes]

theorem run_counted_iff_drop :
    let run := Acceptor.run (Acceptor.initialised {} 5000 : Acceptor Nat)
    let ops : List (AcceptorOp Nat) := [.connectionAccepted true none, .connectionAccepted true none,
      .handshakeCompleted 1 (.connectionError (.ssl .dropped) none), .dropAllConnections (fun _ => []) fun _ => false]
    run ops ≠ .error .pendingCheck ∧ run ops ≠ .error .nullManager ∧
      ∀ front a, front <+: ops → run front = .ok a → a.numPendingSSLConns = (pendingHandshakes a.trace).length :=
  (run_counted_iff {} 5000 _ (by simp [Prompt])).mpr (by decide)

theorem accepted_after_drop_nullManager :
    Acceptor.run (Acceptor.initialised {} 5000 : Acceptor Nat)
      [.dropAllConnections (fun _ => []) fun _ => false, .connectionAccepted true none] = .error .nullManager :=
  rfl

end Wangle.Proof.Acceptor
