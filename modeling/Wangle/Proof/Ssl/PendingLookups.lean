import Wangle.Proof.Ssl.SessionSteps

/-!
# Handshakes that wait for an external lookup
-/

namespace Wangle.Proof.Ssl
open Wangle.Ssl SSLSessionCacheManager
open Wangle.Transition hiding run

variable {n : Nat} {m m' : SSLSessionCacheManager n} {cacheCtx other : CacheContext}

def wakingCtx : Frame → Option CacheContext
  | .getAsync _ => none
  | .restartSSLAccept cacheCtx _ _ => some cacheCtx

def askingCtx : Frame → Option CacheContext
  | .getAsync cacheCtx => some cacheCtx
  | .restartSSLAccept .. => none

def contexts (m : SSLSessionCacheManager n) : List CacheContext := m.outstanding ++ m.stack.filterMap wakingCtx

def asking (m : SSLSessionCacheManager n) : List CacheContext := m.stack.filterMap askingCtx

inductive Phase
  -- in `getAsync`
  | asking
  | waiting
  -- in `restartSSLAccept`
  | waking (next : Nat)

def Phase.inProgress : Phase → Bool
  | .asking => true
  | .waiting => true
  | .waking _ => false

def InPhase (m : SSLSessionCacheManager n) (cacheCtx : CacheContext) : Phase → Prop
  | .asking => cacheCtx ∈ m.outstanding ∧ cacheCtx ∈ asking m
  | .waiting => cacheCtx ∈ m.outstanding ∧ cacheCtx ∉ asking m
  | .waking next => ∃ restored, .restartSSLAccept cacheCtx next restored ∈ m.stack

def owed (cacheCtx : CacheContext) (waiters : List SSLSocket) : Phase → List SSLSocket
  | .asking => waiters
  | .waiting => cacheCtx.sslSocket :: waiters
  | .waking next => waiters.drop next

structure Recorded (pendingLookups : SessionId → Option PendingLookup) (events : List SocketEvent)
    (cacheCtx : CacheContext) (phase : Phase) (pending : PendingLookup) : Prop where
  isPending : pendingLookups cacheCtx.sessionId = some pending
  lookup : pending.lookup = cacheCtx.lookup
  progress : pending.request_in_progress = phase.inProgress
  owes : ∀ sslSocket, events.count (.wouldBlock cacheCtx.lookup sslSocket) =
    events.count (.restartSSLAccept cacheCtx.lookup sslSocket) + (owed cacheCtx pending.waiters phase).count sslSocket
  quiet : phase.inProgress = true → ∀ sslSocket, events.count (.restartSSLAccept cacheCtx.lookup sslSocket) = 0

def joined : SocketEvent → Nat
  | .wouldBlock lookup _ => lookup
  | .restartSSLAccept lookup _ => lookup

structure Serves (m : SSLSessionCacheManager n) : Prop where
  ids : ((contexts m).map (·.sessionId)).Nodup
  numbers : ((contexts m).map (·.lookup)).Nodup
  asks : (asking m).Nodup
  asked : ∀ cacheCtx ∈ asking m, cacheCtx ∈ m.outstanding
  recorded : ∀ cacheCtx phase, InPhase m cacheCtx phase →
    ∃ pending, Recorded m.pendingLookups m.events cacheCtx phase pending
  pending : ∀ sessionId pending, m.pendingLookups sessionId = some pending →
    ∃ cacheCtx ∈ contexts m, cacheCtx.sessionId = sessionId
  closed : ∀ lookup, lookup ∉ (contexts m).map (·.lookup) → ∀ sslSocket,
    m.events.count (.restartSSLAccept lookup sslSocket) = m.events.count (.wouldBlock lookup sslSocket)
  numbered : ∀ cacheCtx ∈ contexts m, cacheCtx.lookup < m.lookups
  happened : ∀ event ∈ m.events, joined event < m.lookups

theorem mem_wakingCtx {stack : List Frame} :
    cacheCtx ∈ stack.filterMap wakingCtx ↔ ∃ next restored, .restartSSLAccept cacheCtx next restored ∈ stack := by
  rw [List.mem_filterMap]
  constructor
  · rintro ⟨frame, member, isCtx⟩
    cases frame with
    | getAsync => cases isCtx
    | restartSSLAccept ctx next restored =>
        cases isCtx
        exact ⟨next, restored, member⟩
  · rintro ⟨next, restored, member⟩
    exact ⟨_, member, rfl⟩

theorem mem_asking : cacheCtx ∈ asking m ↔ .getAsync cacheCtx ∈ m.stack := by
  rw [asking, List.mem_filterMap]
  constructor
  · rintro ⟨frame, member, isCtx⟩
    cases frame with
    | getAsync =>
        cases isCtx
        exact member
    | restartSSLAccept => cases isCtx
  · exact fun member => ⟨_, member, rfl⟩

theorem InPhase.mem {phase : Phase} (inPhase : InPhase m cacheCtx phase) : cacheCtx ∈ contexts m := by
  cases phase with
  | asking => exact List.mem_append_left _ inPhase.1
  | waiting => exact List.mem_append_left _ inPhase.1
  | waking next => exact List.mem_append_right _ (mem_wakingCtx.mpr ⟨next, inPhase⟩)

theorem exists_phase (member : cacheCtx ∈ contexts m) : ∃ phase, InPhase m cacheCtx phase := by
  rcases List.mem_append.mp member with isOutstanding | isWaking
  · by_cases isAsking : cacheCtx ∈ asking m
    · exact ⟨.asking, isOutstanding, isAsking⟩
    · exact ⟨.waiting, isOutstanding, isAsking⟩
  · obtain ⟨next, onStack⟩ := mem_wakingCtx.mp isWaking
    exact ⟨.waking next, onStack⟩

namespace Serves

theorem distinct (serves : Serves m) (isOther : other ∈ contexts m) (isCtx : cacheCtx ∈ contexts m)
    (ne : other ≠ cacheCtx) : other.sessionId ≠ cacheCtx.sessionId ∧ other.lookup ≠ cacheCtx.lookup :=
  ⟨fun same => ne (List.inj_on_of_nodup_map serves.ids isOther isCtx same),
    fun same => ne (List.inj_on_of_nodup_map serves.numbers isOther isCtx same)⟩

theorem nodup (serves : Serves m) : (contexts m).Nodup := serves.ids.of_map

theorem not_waking (serves : Serves m) (isOutstanding : cacheCtx ∈ m.outstanding) (next : Nat)
    (restored : Option (Option Session)) : .restartSSLAccept cacheCtx next restored ∉ m.stack := fun onStack =>
  (List.nodup_append.mp serves.nodup).2.2 _ isOutstanding _ (mem_wakingCtx.mpr ⟨next, restored, onStack⟩) rfl

theorem recordedAs (serves : Serves m) (phase : Phase) {pending : PendingLookup} (inPhase : InPhase m cacheCtx phase)
    (isPending : m.pendingLookups cacheCtx.sessionId = some pending) :
    Recorded m.pendingLookups m.events cacheCtx phase pending := by
  obtain ⟨found, recorded⟩ := serves.recorded cacheCtx phase inPhase
  have same : found = pending := Option.some.inj (recorded.isPending.symm.trans isPending)
  exact same ▸ recorded

end Serves

structure Elsewhere (cacheCtx : CacheContext) (m m' : SSLSessionCacheManager n) : Prop where
  pendingLookups : ∀ sessionId ≠ cacheCtx.sessionId, m'.pendingLookups sessionId = m.pendingLookups sessionId
  events : ∀ event, joined event ≠ cacheCtx.lookup → m'.events.count event = m.events.count event
  phases : ∀ other ≠ cacheCtx, ∀ phase, InPhase m' other phase → InPhase m other phase
  lookups : m'.lookups = m.lookups
  happened : ∀ event ∈ m'.events, event ∈ m.events ∨ joined event = cacheCtx.lookup

theorem Elsewhere.recorded (elsewhere : Elsewhere cacheCtx m m') (serves : Serves m) (isCtx : cacheCtx ∈ contexts m)
    (ne : other ≠ cacheCtx) {phase : Phase} (inPhase : InPhase m' other phase) :
    ∃ pending, Recorded m'.pendingLookups m'.events other phase pending := by
  have before := elsewhere.phases other ne phase inPhase
  obtain ⟨otherId, otherLookup⟩ := serves.distinct before.mem isCtx ne
  obtain ⟨pending, recorded⟩ := serves.recorded other phase before
  have restarts (sslSocket : SSLSocket) := elsewhere.events (.restartSSLAccept other.lookup sslSocket) otherLookup
  refine ⟨pending, ?_, recorded.lookup, recorded.progress, fun sslSocket => ?_, fun inProgress sslSocket => ?_⟩
  · rw [elsewhere.pendingLookups _ otherId]
    exact recorded.isPending
  · rw [elsewhere.events (.wouldBlock other.lookup sslSocket) otherLookup, restarts]
    exact recorded.owes sslSocket
  · rw [restarts]
    exact recorded.quiet inProgress sslSocket

theorem Elsewhere.closed (elsewhere : Elsewhere cacheCtx m m') (serves : Serves m) {lookup : Nat}
    (isClosed : lookup ∉ (contexts m).map (·.lookup)) (ne : lookup ≠ cacheCtx.lookup) (sslSocket : SSLSocket) :
    m'.events.count (.restartSSLAccept lookup sslSocket) = m'.events.count (.wouldBlock lookup sslSocket) := by
  rw [elsewhere.events (.restartSSLAccept lookup sslSocket) ne, elsewhere.events (.wouldBlock lookup sslSocket) ne]
  exact serves.closed lookup isClosed sslSocket

theorem Elsewhere.joined_lt (elsewhere : Elsewhere cacheCtx m m') (serves : Serves m) (isCtx : cacheCtx ∈ contexts m) :
    ∀ event ∈ m'.events, joined event < m'.lookups := by
  intro event member
  rw [elsewhere.lookups]
  rcases elsewhere.happened event member with old | new
  · exact serves.happened event old
  · rw [new]
    exact serves.numbered cacheCtx isCtx

namespace Serves

theorem goesOn (serves : Serves m) (isCtx : cacheCtx ∈ contexts m) (elsewhere : Elsewhere cacheCtx m m')
    (same : (contexts m').Perm (contexts m)) (asks : (asking m').Nodup)
    (asked : ∀ cacheCtx ∈ asking m', cacheCtx ∈ m'.outstanding)
    (own : ∀ phase, InPhase m' cacheCtx phase → ∃ pending, Recorded m'.pendingLookups m'.events cacheCtx phase pending) :
    Serves m' where
  ids := ((same.map _).nodup_iff).mpr serves.ids
  numbers := ((same.map _).nodup_iff).mpr serves.numbers
  asks := asks
  asked := asked
  recorded := by
    intro other phase inPhase
    by_cases isOwn : other = cacheCtx
    · subst isOwn
      exact own phase inPhase
    · exact elsewhere.recorded serves isCtx isOwn inPhase
  pending := by
    intro sessionId pending isPending
    by_cases isOwn : sessionId = cacheCtx.sessionId
    · exact ⟨cacheCtx, same.mem_iff.mpr isCtx, isOwn.symm⟩
    · rw [elsewhere.pendingLookups sessionId isOwn] at isPending
      obtain ⟨other, member, isId⟩ := serves.pending sessionId pending isPending
      exact ⟨other, same.mem_iff.mpr member, isId⟩
  closed := by
    intro lookup isClosed sslSocket
    rw [(same.map _).mem_iff] at isClosed
    refine elsewhere.closed serves isClosed (fun isOwn => isClosed ?_) sslSocket
    exact isOwn ▸ List.mem_map_of_mem isCtx
  numbered := by
    intro other member
    rw [elsewhere.lookups]
    exact serves.numbered other (same.mem_iff.mp member)
  happened := elsewhere.joined_lt serves isCtx

theorem ends (serves : Serves m) (elsewhere : Elsewhere cacheCtx m m')
    (gone : (contexts m).Perm (cacheCtx :: contexts m')) (asks : (asking m').Nodup)
    (asked : ∀ cacheCtx ∈ asking m', cacheCtx ∈ m'.outstanding)
    (noEntry : m'.pendingLookups cacheCtx.sessionId = none)
    (settled : ∀ sslSocket, m'.events.count (.restartSSLAccept cacheCtx.lookup sslSocket) =
      m'.events.count (.wouldBlock cacheCtx.lookup sslSocket)) : Serves m' := by
  have isCtx : cacheCtx ∈ contexts m := gone.mem_iff.mpr List.mem_cons_self
  have ids := ((gone.map (·.sessionId)).nodup_iff).mp serves.ids
  have numbers := ((gone.map (·.lookup)).nodup_iff).mp serves.numbers
  rw [List.map_cons, List.nodup_cons] at ids numbers
  refine ⟨ids.2, numbers.2, asks, asked, fun other phase inPhase => ?_, fun sessionId pending isPending => ?_,
    fun lookup isClosed sslSocket => ?_, fun other member => ?_, elsewhere.joined_lt serves isCtx⟩
  · refine elsewhere.recorded serves isCtx (fun isOwn => ?_) inPhase
    subst isOwn
    exact ids.1 (List.mem_map_of_mem inPhase.mem)
  · by_cases isOwn : sessionId = cacheCtx.sessionId
    · rw [isOwn, noEntry] at isPending
      cases isPending
    · rw [elsewhere.pendingLookups sessionId isOwn] at isPending
      obtain ⟨other, member, isId⟩ := serves.pending sessionId pending isPending
      rcases List.mem_cons.mp (gone.mem_iff.mp member) with rfl | member
      · exact absurd isId.symm isOwn
      · exact ⟨other, member, isId⟩
  · by_cases isOwn : lookup = cacheCtx.lookup
    · exact isOwn ▸ settled sslSocket
    · refine elsewhere.closed serves (fun member => ?_) isOwn sslSocket
      rw [(gone.map _).mem_iff] at member
      rcases List.mem_cons.mp member with same | member
      · exact isOwn same
      · exact isClosed member
  · rw [elsewhere.lookups]
    exact serves.numbered other (gone.mem_iff.mpr (List.mem_cons_of_mem _ member))

end Serves

theorem count_concat_of_ne {events : List SocketEvent} {event new : SocketEvent} (ne : joined event ≠ joined new) :
    (events ++ [new]).count event = events.count event := by
  have other : new ≠ event := fun same => ne (congrArg joined same).symm
  rw [List.count_append, List.count_singleton, if_neg (by simpa using other), Nat.add_zero]

theorem mem_concat {events : List SocketEvent} {event new : SocketEvent} {lookup : Nat} (isNew : joined new = lookup)
    (member : event ∈ events ++ [new]) : event ∈ events ∨ joined event = lookup := by
  rcases List.mem_append.mp member with old | last
  · exact .inl old
  · exact .inr (List.mem_singleton.mp last ▸ isNew)

theorem count_wouldBlock (events : List SocketEvent) (lookup : Nat) (sslSocket s : SSLSocket) :
    (events ++ [SocketEvent.wouldBlock lookup sslSocket]).count (.wouldBlock lookup s) =
        events.count (.wouldBlock lookup s) + [sslSocket].count s ∧
      (events ++ [SocketEvent.wouldBlock lookup sslSocket]).count (.restartSSLAccept lookup s) =
        events.count (.restartSSLAccept lookup s) := by
  constructor
  · simp [List.count_append, List.count_singleton]
  · simp [List.count_append]

theorem count_restartSSLAccept (events : List SocketEvent) (lookup : Nat) (sslSocket s : SSLSocket) :
    (events ++ [SocketEvent.restartSSLAccept lookup sslSocket]).count (.wouldBlock lookup s) =
        events.count (.wouldBlock lookup s) ∧
      (events ++ [SocketEvent.restartSSLAccept lookup sslSocket]).count (.restartSSLAccept lookup s) =
        events.count (.restartSSLAccept lookup s) + [sslSocket].count s := by
  constructor
  · simp [List.count_append]
  · simp [List.count_append, List.count_singleton]

theorem setPending_of_ne {sessionId other : SessionId} (ne : other ≠ sessionId) (pending : Option PendingLookup)
    (m : SSLSessionCacheManager n) : (m.setPending sessionId pending).pendingLookups other = m.pendingLookups other :=
  Function.update_of_ne ne ..

theorem setPending_self (sessionId : SessionId) (pending : Option PendingLookup) (m : SSLSessionCacheManager n) :
    (m.setPending sessionId pending).pendingLookups sessionId = pending :=
  Function.update_self ..

/-- No lookup completes before `getAsync` has returned or with a null buffer, and none is refused that other sockets
have joined. -/
def Waits (m : SSLSessionCacheManager n) : Op → Prop
  | .complete cacheCtx completion => .getAsync cacheCtx ∉ m.stack ∧ completion ≠ .onGetSuccessBuf none
  | .getAsyncReturns res => res = false → ∀ cacheCtx stack pending, m.stack = .getAsync cacheCtx :: stack →
      m.pendingLookups cacheCtx.sessionId = some pending → pending.waiters = []
  | .newSession .. => True
  | .removeSession _ => True
  | .getSession .. => True
  | .restartReturns => True

namespace Serves

theorem started (serves : Serves m) {sslSocket : SSLSocket} {sessionId : SessionId}
    (free : m.pendingLookups sessionId = none) :
    Serves ((m.setPending sessionId (some { lookup := m.lookups })).lookupCacheRecord sessionId sslSocket) := by
  have isNew : ∀ other ∈ contexts m, other.sessionId ≠ sessionId ∧ other.lookup ≠ m.lookups := by
    intro other member
    obtain ⟨phase, inPhase⟩ := exists_phase member
    obtain ⟨pending, recorded⟩ := serves.recorded other phase inPhase
    refine ⟨fun same => ?_, Nat.ne_of_lt (serves.numbered other member)⟩
    have isPending := recorded.isPending
    rw [same, free] at isPending
    cases isPending
  have absent : ⟨sessionId, sslSocket, m.lookups⟩ ∉ contexts m := fun member => (isNew _ member).1 rfl
  have notAsking : ⟨sessionId, sslSocket, m.lookups⟩ ∉ asking m :=
    fun member => absent (List.mem_append_left _ (serves.asked _ member))
  have silent (event : SocketEvent) (isEvent : joined event = m.lookups) : m.events.count event = 0 := by
    rw [List.count_eq_zero]
    intro member
    have old := serves.happened event member
    omega
  refine ⟨List.nodup_cons.mpr ⟨?_, serves.ids⟩, List.nodup_cons.mpr ⟨?_, serves.numbers⟩,
    List.nodup_cons.mpr ⟨notAsking, serves.asks⟩, fun other member => ?_, fun other phase inPhase => ?_,
    fun id pending isPending => ?_, fun lookup isClosed => ?_, fun other member => ?_, fun event member => ?_⟩
  · intro member
    obtain ⟨other, isOther, same⟩ := List.mem_map.mp member
    exact (isNew other isOther).1 same
  · intro member
    obtain ⟨other, isOther, same⟩ := List.mem_map.mp member
    exact (isNew other isOther).2 same
  · rcases List.mem_cons.mp member with rfl | old
    · exact List.mem_cons_self
    · exact List.mem_cons_of_mem _ (serves.asked other old)
  · by_cases isOwn : other = ⟨sessionId, sslSocket, m.lookups⟩
    · subst isOwn
      cases phase with
      | asking =>
          refine ⟨_, setPending_self .., rfl, rfl, fun s => ?_, fun _ s => silent _ rfl⟩
          exact (silent _ rfl).trans (silent _ rfl).symm
      | waiting => exact absurd List.mem_cons_self inPhase.2
      | waking next =>
          obtain ⟨restored, onStack⟩ := inPhase
          refine absurd (List.mem_append_right _ (mem_wakingCtx.mpr ⟨next, restored, ?_⟩)) absent
          exact (List.mem_cons.mp onStack).resolve_left (by simp)
    · have before : InPhase m other phase := by
        cases phase with
        | asking =>
            exact ⟨(List.mem_cons.mp inPhase.1).resolve_left isOwn, (List.mem_cons.mp inPhase.2).resolve_left isOwn⟩
        | waiting =>
            refine ⟨(List.mem_cons.mp inPhase.1).resolve_left isOwn, fun isAsking => inPhase.2 ?_⟩
            exact List.mem_cons_of_mem _ isAsking
        | waking next =>
            obtain ⟨restored, onStack⟩ := inPhase
            exact ⟨restored, (List.mem_cons.mp onStack).resolve_left (by simp)⟩
      obtain ⟨pending, recorded⟩ := serves.recorded other phase before
      refine ⟨pending, ?_, recorded.lookup, recorded.progress, recorded.owes, recorded.quiet⟩
      exact (setPending_of_ne (isNew other before.mem).1 _ m).trans recorded.isPending
  · by_cases isOwn : id = sessionId
    · exact ⟨_, List.mem_cons_self, isOwn.symm⟩
    · obtain ⟨other, member, isId⟩ := serves.pending id pending ((setPending_of_ne isOwn _ m).symm.trans isPending)
      exact ⟨other, List.mem_cons_of_mem _ member, isId⟩
  · exact serves.closed lookup fun member => isClosed (List.mem_cons_of_mem _ member)
  · rcases List.mem_cons.mp member with rfl | old
    · exact Nat.lt_succ_self _
    · exact Nat.lt_succ_of_lt (serves.numbered other old)
  · exact Nat.lt_succ_of_lt (serves.happened event member)

theorem attached (serves : Serves m) {sslSocket : SSLSocket} {sessionId : SessionId} {pending : PendingLookup}
    (isPending : m.pendingLookups sessionId = some pending) (inProgress : pending.request_in_progress = true) :
    Serves { m.setPending sessionId (some (withWaiter sslSocket pending)) with
      events := m.events ++ [.wouldBlock pending.lookup sslSocket] } := by
  obtain ⟨cacheCtx, isCtx, rfl⟩ := serves.pending sessionId pending isPending
  obtain ⟨_, inPhase⟩ := exists_phase isCtx
  have isLookup := (serves.recordedAs _ inPhase isPending).lookup
  rw [isLookup]
  refine serves.goesOn isCtx ⟨fun id ne => setPending_of_ne ne _ m, fun event ne => count_concat_of_ne ne,
    fun other ne phase inPhase => inPhase, rfl, fun event member => mem_concat rfl member⟩
    (.refl _) serves.asks serves.asked fun phase inPhase => ?_
  have recorded := serves.recordedAs phase inPhase isPending
  have counts := count_wouldBlock m.events cacheCtx.lookup sslSocket
  have phaseInProgress : phase.inProgress = true := recorded.progress ▸ inProgress
  refine ⟨_, setPending_self .., isLookup, recorded.progress, fun s => ?_, fun _ s => ?_⟩
  · rw [(counts s).1, (counts s).2, recorded.owes s, Nat.add_assoc, ← List.count_append]
    cases phase with
    | asking => rfl
    | waiting => rfl
    | waking next => cases phaseInProgress
  · rw [(counts s).2]
    exact recorded.quiet phaseInProgress s

theorem asking_cons (serves : Serves m) {stack : List Frame} (isStack : m.stack = .getAsync cacheCtx :: stack) :
    cacheCtx ∈ m.outstanding ∧ asking m = cacheCtx :: stack.filterMap askingCtx ∧
      cacheCtx ∉ stack.filterMap askingCtx := by
  have isAsking : asking m = cacheCtx :: stack.filterMap askingCtx := by
    rw [asking, isStack]
    rfl
  exact ⟨serves.asked cacheCtx (isAsking ▸ List.mem_cons_self), isAsking, (List.nodup_cons.mp (isAsking ▸ serves.asks)).1⟩

theorem waits (serves : Serves m) {stack : List Frame} (isStack : m.stack = .getAsync cacheCtx :: stack) :
    Serves { m with stack := stack, events := m.events ++ [.wouldBlock cacheCtx.lookup cacheCtx.sslSocket] } := by
  obtain ⟨isOutstanding, isAsking, once⟩ := serves.asking_cons isStack
  have isCtx : cacheCtx ∈ contexts m := List.mem_append_left _ isOutstanding
  have asks := serves.asks
  have asked := serves.asked
  rw [isAsking] at asks asked
  refine serves.goesOn isCtx ⟨fun id ne => rfl, fun event ne => count_concat_of_ne ne, fun other ne phase inPhase => ?_,
    rfl, fun event member => mem_concat rfl member⟩ ?_ (List.nodup_cons.mp asks).2
    (fun other member => asked other (List.mem_cons_of_mem _ member)) fun phase inPhase => ?_
  · cases phase with
    | asking => exact ⟨inPhase.1, isAsking ▸ List.mem_cons_of_mem _ inPhase.2⟩
    | waiting => exact ⟨inPhase.1, fun member => inPhase.2 ((List.mem_cons.mp (isAsking ▸ member)).resolve_left ne)⟩
    | waking next =>
        obtain ⟨restored, onStack⟩ := inPhase
        exact ⟨restored, isStack ▸ List.mem_cons_of_mem _ onStack⟩
  · rw [show contexts m = m.outstanding ++ m.stack.filterMap wakingCtx from rfl, isStack]
    exact .refl _
  · cases phase with
    | asking => exact absurd inPhase.2 once
    | waiting =>
        obtain ⟨pending, recorded⟩ := serves.recorded cacheCtx .asking ⟨isOutstanding, isAsking ▸ List.mem_cons_self⟩
        have counts := count_wouldBlock m.events cacheCtx.lookup cacheCtx.sslSocket
        refine ⟨pending, recorded.isPending, recorded.lookup, recorded.progress, fun s => ?_, fun _ s => ?_⟩
        · rw [(counts s).1, (counts s).2, recorded.owes s, Nat.add_assoc, Nat.add_comm (List.count s _), ← List.count_append]
          rfl
        · rw [(counts s).2]
          exact recorded.quiet rfl s
    | waking next =>
        obtain ⟨restored, onStack⟩ := inPhase
        exact absurd (isStack ▸ List.mem_cons_of_mem _ onStack) (serves.not_waking isOutstanding next restored)

theorem refused (serves : Serves m) {stack : List Frame} (isStack : m.stack = .getAsync cacheCtx :: stack)
    (alone : ∀ pending, m.pendingLookups cacheCtx.sessionId = some pending → pending.waiters = []) :
    Serves { m.setPending cacheCtx.sessionId none with
      stack := stack, outstanding := m.outstanding.erase cacheCtx } := by
  obtain ⟨isOutstanding, isAsking, once⟩ := serves.asking_cons isStack
  have asks := serves.asks
  have asked := serves.asked
  rw [isAsking] at asks asked
  refine serves.ends ⟨fun id ne => setPending_of_ne ne none m, fun event ne => rfl, fun other ne phase inPhase => ?_, rfl,
    fun event member => .inl member⟩ ?_ (List.nodup_cons.mp asks).2 (fun other member => ?_) (setPending_self ..) fun s => ?_
  · cases phase with
    | asking => exact ⟨List.mem_of_mem_erase inPhase.1, isAsking ▸ List.mem_cons_of_mem _ inPhase.2⟩
    | waiting =>
        refine ⟨List.mem_of_mem_erase inPhase.1, fun member => inPhase.2 ?_⟩
        exact (List.mem_cons.mp (isAsking ▸ member)).resolve_left ne
    | waking next =>
        obtain ⟨restored, onStack⟩ := inPhase
        exact ⟨restored, isStack ▸ List.mem_cons_of_mem _ onStack⟩
  · rw [contexts, isStack]
    exact (List.perm_cons_erase isOutstanding).append_right _
  · have ne : other ≠ cacheCtx := fun same => once (same ▸ member)
    exact (List.mem_erase_of_ne ne).mpr (asked other (List.mem_cons_of_mem _ member))
  · obtain ⟨pending, recorded⟩ := serves.recorded cacheCtx .asking ⟨isOutstanding, isAsking ▸ List.mem_cons_self⟩
    have owes := recorded.owes s
    rw [owed, alone pending recorded.isPending] at owes
    exact owes.symm

theorem woke (serves : Serves m) {pending : PendingLookup} {restored : Option (Option Session)}
    (isOutstanding : cacheCtx ∈ m.outstanding) (returned : .getAsync cacheCtx ∉ m.stack)
    (isPending : m.pendingLookups cacheCtx.sessionId = some pending) :
    Serves { m.setPending cacheCtx.sessionId (some (withAnswer restored pending)) with
      outstanding := m.outstanding.erase cacheCtx
      stack := .restartSSLAccept cacheCtx 0 restored :: m.stack
      events := m.events ++ [.restartSSLAccept cacheCtx.lookup cacheCtx.sslSocket] } := by
  have notAsking : cacheCtx ∉ asking m := fun member => returned (mem_asking.mp member)
  have erased : cacheCtx ∉ m.outstanding.erase cacheCtx := (List.nodup_append.mp serves.nodup).1.not_mem_erase
  refine serves.goesOn (List.mem_append_left _ isOutstanding) ⟨fun id ne => setPending_of_ne ne _ m,
    fun event ne => count_concat_of_ne ne, fun other ne phase inPhase => ?_, rfl,
    fun event member => mem_concat rfl member⟩ ?_ serves.asks (fun other member => ?_) fun phase inPhase => ?_
  · cases phase with
    | asking => exact ⟨List.mem_of_mem_erase inPhase.1, inPhase.2⟩
    | waiting => exact ⟨List.mem_of_mem_erase inPhase.1, inPhase.2⟩
    | waking next =>
        obtain ⟨restored, onStack⟩ := inPhase
        refine ⟨restored, (List.mem_cons.mp onStack).resolve_left fun same => ?_⟩
        cases same
        exact ne rfl
  · exact List.perm_middle.trans ((List.perm_cons_erase isOutstanding).symm.append_right _)
  · have ne : other ≠ cacheCtx := fun same => notAsking (same ▸ member)
    exact (List.mem_erase_of_ne ne).mpr (serves.asked other member)
  · cases phase with
    | asking => exact absurd inPhase.1 erased
    | waiting => exact absurd inPhase.1 erased
    | waking next =>
        obtain ⟨answer, onStack⟩ := inPhase
        rcases List.mem_cons.mp onStack with same | old
        · cases same
          have recorded := serves.recordedAs .waiting ⟨isOutstanding, notAsking⟩ isPending
          have counts := count_restartSSLAccept m.events cacheCtx.lookup cacheCtx.sslSocket
          refine ⟨_, setPending_self .., recorded.lookup, rfl, fun s => ?_, fun inProgress => by cases inProgress⟩
          rw [(counts s).1, (counts s).2, recorded.owes s, Nat.add_assoc, ← List.count_append]
          rfl
        · exact absurd old (serves.not_waking isOutstanding next answer)

theorem waking_cons (serves : Serves m) {i : Nat} {restored : Option (Option Session)} {stack : List Frame}
    (isStack : m.stack = .restartSSLAccept cacheCtx i restored :: stack) :
    (contexts m).Perm (cacheCtx :: (m.outstanding ++ stack.filterMap wakingCtx)) ∧ cacheCtx ∉ m.outstanding ∧
      cacheCtx ∉ stack.filterMap wakingCtx ∧ asking m = stack.filterMap askingCtx := by
  have perm : (contexts m).Perm (cacheCtx :: (m.outstanding ++ stack.filterMap wakingCtx)) := by
    rw [contexts, isStack]
    exact List.perm_middle
  have absent := (List.nodup_cons.mp (perm.nodup_iff.mp serves.nodup)).1
  refine ⟨perm, fun member => absent (List.mem_append_left _ member), fun member => absent (List.mem_append_right _ member), ?_⟩
  rw [asking, isStack]
  rfl

theorem next (serves : Serves m) {i : Nat} {restored : Option (Option Session)} {stack : List Frame}
    {pending : PendingLookup} {sslSocket : SSLSocket} (isStack : m.stack = .restartSSLAccept cacheCtx i restored :: stack)
    (isPending : m.pendingLookups cacheCtx.sessionId = some pending) (isWaiter : pending.waiters[i]? = some sslSocket) :
    Serves { m with
      stack := .restartSSLAccept cacheCtx (i + 1) restored :: stack
      events := m.events ++ [.restartSSLAccept cacheCtx.lookup sslSocket] } := by
  obtain ⟨perm, notOutstanding, once, isAsking⟩ := serves.waking_cons isStack
  have asks := serves.asks
  have asked := serves.asked
  rw [isAsking] at asks asked
  refine serves.goesOn (perm.mem_iff.mpr List.mem_cons_self) ⟨fun id ne => rfl, fun event ne => count_concat_of_ne ne,
    fun other ne phase inPhase => ?_, rfl, fun event member => mem_concat rfl member⟩
    (List.perm_middle.trans perm.symm) asks asked fun phase inPhase => ?_
  · cases phase with
    | asking => exact ⟨inPhase.1, isAsking ▸ inPhase.2⟩
    | waiting => exact ⟨inPhase.1, isAsking ▸ inPhase.2⟩
    | waking next =>
        obtain ⟨answer, onStack⟩ := inPhase
        refine ⟨answer, isStack ▸ List.mem_cons_of_mem _ ((List.mem_cons.mp onStack).resolve_left fun same => ?_)⟩
        cases same
        exact ne rfl
  · cases phase with
    | asking => exact absurd inPhase.1 notOutstanding
    | waiting => exact absurd inPhase.1 notOutstanding
    | waking next =>
        obtain ⟨answer, onStack⟩ := inPhase
        rcases List.mem_cons.mp onStack with same | old
        · cases same
          have recorded := serves.recordedAs (.waking i) ⟨restored, isStack ▸ List.mem_cons_self⟩ isPending
          have counts := count_restartSSLAccept m.events cacheCtx.lookup sslSocket
          have owes : owed cacheCtx pending.waiters (.waking i) = [sslSocket] ++ pending.waiters.drop (i + 1) := by
            obtain ⟨bound, isSocket⟩ := List.getElem?_eq_some_iff.mp isWaiter
            rw [owed, List.drop_eq_getElem_cons bound, isSocket]
            rfl
          refine ⟨pending, recorded.isPending, recorded.lookup, recorded.progress, fun s => ?_,
            fun inProgress => by cases inProgress⟩
          rw [(counts s).1, (counts s).2, recorded.owes s, owes, Nat.add_assoc, ← List.count_append]
          rfl
        · exact absurd (mem_wakingCtx.mpr ⟨next, answer, old⟩) once

theorem last (serves : Serves m) {i : Nat} {restored : Option (Option Session)} {stack : List Frame}
    {pending : PendingLookup} (isStack : m.stack = .restartSSLAccept cacheCtx i restored :: stack)
    (isPending : m.pendingLookups cacheCtx.sessionId = some pending) (noWaiter : pending.waiters[i]? = none)
    (localCache : ShardedLocalSSLSessionCache n) :
    Serves { m.setPending cacheCtx.sessionId none with stack := stack, localCache := localCache } := by
  obtain ⟨perm, notOutstanding, once, isAsking⟩ := serves.waking_cons isStack
  have asks := serves.asks
  have asked := serves.asked
  rw [isAsking] at asks asked
  refine serves.ends ⟨fun id ne => setPending_of_ne ne none m, fun event ne => rfl, fun other ne phase inPhase => ?_, rfl,
    fun event member => .inl member⟩ perm asks asked (setPending_self ..) fun s => ?_
  · cases phase with
    | asking => exact ⟨inPhase.1, isAsking ▸ inPhase.2⟩
    | waiting => exact ⟨inPhase.1, isAsking ▸ inPhase.2⟩
    | waking next =>
        obtain ⟨answer, onStack⟩ := inPhase
        exact ⟨answer, isStack ▸ List.mem_cons_of_mem _ onStack⟩
  · have recorded := serves.recordedAs (.waking i) ⟨restored, isStack ▸ List.mem_cons_self⟩ isPending
    have owes := recorded.owes s
    rw [owed, List.drop_eq_nil_of_le (List.getElem?_eq_none_iff.mp noWaiter)] at owes
    exact owes.symm

theorem step {op : Op} (serves : Serves m) (waits : Waits m op) (taken : SSLSessionCacheManager.step m op = .ok m') :
    Serves m' := by
  have relocated (localCache : ShardedLocalSSLSessionCache n) : Serves { m with localCache := localCache } :=
    ⟨serves.ids, serves.numbers, serves.asks, serves.asked, serves.recorded, serves.pending, serves.closed,
      serves.numbered, serves.happened⟩
  cases takes_of_step taken with
  | newSession sessionId session => exact relocated _
  | removeSession sessionId => exact relocated _
  | short sslSocket sessionId wantsLookup => exact serves
  | returned sslSocket sessionId wantsLookup => exact relocated _
  | started sslSocket sessionId wantsLookup miss free => exact (relocated _).started free
  | attached sslSocket sessionId wantsLookup pending miss isPending inProgress =>
      exact (relocated _).attached isPending inProgress
  | answered sslSocket sessionId wantsLookup pending miss => exact relocated _
  | asked cacheCtx stack isStack => exact serves.waits isStack
  | refused cacheCtx stack isStack isOutstanding =>
      exact serves.refused isStack fun pending => waits rfl cacheCtx stack pending isStack
  | dropped cacheCtx isOutstanding => exact absurd rfl waits.2
  | woke cacheCtx completion pending isOutstanding isPending => exact serves.woke isOutstanding waits.1 isPending
  | next cacheCtx i restored stack pending sslSocket isStack isPending isWaiter =>
      exact serves.next isStack isPending isWaiter
  | last cacheCtx i restored stack pending isStack isPending noWaiter => exact serves.last isStack isPending noWaiter _

theorem not_none (serves : Serves m) (isCtx : cacheCtx ∈ contexts m) : m.pendingLookups cacheCtx.sessionId ≠ none := by
  obtain ⟨phase, inPhase⟩ := exists_phase isCtx
  obtain ⟨pending, recorded⟩ := serves.recorded cacheCtx phase inPhase
  rw [recorded.isPending]
  exact Option.some_ne_none pending

theorem restartSSLAccept_ne_error (serves : Serves m) (isOutstanding : cacheCtx ∈ m.outstanding)
    (restored : Option (Option Session)) (e : Fault) :
    { m with outstanding := m.outstanding.erase cacheCtx }.restartSSLAccept cacheCtx restored ≠ .error e := by
  unfold restartSSLAccept
  split
  · rename_i noEntry
    exact absurd noEntry (serves.not_none (List.mem_append_left _ isOutstanding))
  · simp

theorem step_error {op : Op} {e : Fault} (serves : Serves m) (stuck : SSLSessionCacheManager.step m op = .error e) :
    e = .impossible := by
  cases op with
  | newSession sessionId session => cases stuck
  | removeSession sessionId => cases stuck
  | getSession sslSocket sessionId wantsLookup => cases stuck
  | getAsyncReturns res =>
      simp only [SSLSessionCacheManager.step, getAsyncReturns] at stuck
      split at stuck
      · split at stuck
        · cases stuck
        · split at stuck <;> cases stuck
          rfl
      · cases stuck
        rfl
  | complete cacheCtx completion =>
      simp only [SSLSessionCacheManager.step, complete] at stuck
      split at stuck
      · rename_i isOutstanding
        cases completion with
        | onGetSuccess session => exact absurd stuck (serves.restartSSLAccept_ne_error isOutstanding _ e)
        | onGetSuccessBuf valueBuf =>
            cases valueBuf with
            | none => cases stuck
            | some session => exact absurd stuck (serves.restartSSLAccept_ne_error isOutstanding _ e)
        | onGetFailure => exact absurd stuck (serves.restartSSLAccept_ne_error isOutstanding _ e)
      · cases stuck
        rfl
  | restartReturns =>
      simp only [SSLSessionCacheManager.step, restartReturns] at stuck
      split at stuck
      · rename_i cacheCtx i restored stack isStack
        split at stuck
        · rename_i noEntry
          refine absurd noEntry (serves.not_none (List.mem_append_right _ (mem_wakingCtx.mpr ⟨i, restored, ?_⟩)))
          exact isStack ▸ List.mem_cons_self
        · split at stuck <;> cases stuck
      · cases stuck
        rfl

end Serves

theorem new_serves (localCache : ShardedLocalSSLSessionCache n) (externalCache : Bool) :
    Serves { localCache, externalCache } where
  ids := List.nodup_nil
  numbers := List.nodup_nil
  asks := List.nodup_nil
  asked _ member := nomatch member
  recorded _ _ inPhase := nomatch inPhase.mem
  pending _ _ isPending := nomatch isPending
  closed _ _ _ := rfl
  numbered _ member := nomatch member
  happened _ member := nomatch member

def Running (m : SSLSessionCacheManager n) (lookup : Nat) : Prop := ∃ cacheCtx ∈ contexts m, cacheCtx.lookup = lookup

/-- What is promised to the sockets that are blocked. -/
structure WakesOnce (m : SSLSessionCacheManager n) : Prop where
  oneLookup : (m.outstanding.map (·.sessionId)).Nodup
  blockedFirst : ∀ lookup sslSocket,
    m.events.count (.restartSSLAccept lookup sslSocket) ≤ m.events.count (.wouldBlock lookup sslSocket)
  notBefore : ∀ cacheCtx ∈ m.outstanding, ∀ sslSocket, .restartSSLAccept cacheCtx.lookup sslSocket ∉ m.events
  once : ∀ lookup, ¬ Running m lookup → ∀ sslSocket,
    m.events.count (.restartSSLAccept lookup sslSocket) = m.events.count (.wouldBlock lookup sslSocket)
  noneSurvives : ∀ sessionId pending, m.pendingLookups sessionId = some pending → Running m pending.lookup

theorem Serves.wakesOnce (serves : Serves m) : WakesOnce m where
  oneLookup := by
    have ids := serves.ids
    rw [contexts, List.map_append] at ids
    exact (List.nodup_append.mp ids).1
  blockedFirst := by
    intro lookup sslSocket
    by_cases running : Running m lookup
    · obtain ⟨cacheCtx, isCtx, rfl⟩ := running
      obtain ⟨phase, inPhase⟩ := exists_phase isCtx
      obtain ⟨pending, recorded⟩ := serves.recorded cacheCtx phase inPhase
      rw [recorded.owes sslSocket]
      exact Nat.le_add_right ..
    · refine (serves.closed lookup (fun member => running ?_) sslSocket).le
      exact List.mem_map.mp member
  notBefore := by
    intro cacheCtx isOutstanding sslSocket
    obtain ⟨phase, inPhase⟩ : ∃ phase, InPhase m cacheCtx phase ∧ phase.inProgress = true := by
      by_cases isAsking : cacheCtx ∈ asking m
      · exact ⟨.asking, ⟨isOutstanding, isAsking⟩, rfl⟩
      · exact ⟨.waiting, ⟨isOutstanding, isAsking⟩, rfl⟩
    obtain ⟨pending, recorded⟩ := serves.recorded cacheCtx phase inPhase.1
    exact List.count_eq_zero.mp (recorded.quiet inPhase.2 sslSocket)
  once := fun lookup closed => serves.closed lookup fun member => closed (List.mem_map.mp member)
  noneSurvives := by
    intro sessionId pending isPending
    obtain ⟨cacheCtx, isCtx, rfl⟩ := serves.pending sessionId pending isPending
    obtain ⟨phase, inPhase⟩ := exists_phase isCtx
    exact ⟨cacheCtx, isCtx, (serves.recordedAs phase inPhase isPending).lookup.symm⟩

/-- The manager fails no check, and it wakes every blocked handshake once, when no lookup completes before `getAsync`
returns or with a null buffer, and none is refused that other sockets have joined. -/
theorem blocked_handshakes_wake_once (localCache : ShardedLocalSSLSessionCache n) (externalCache : Bool) (ops : List Op)
    (along : Along SSLSessionCacheManager.step Waits { localCache, externalCache } ops) :
    Yields (· ≠ .impossible) WakesOnce (run { localCache, externalCache } ops) := by
  refine (yields_run (fun m op serves waits => ?_) (new_serves localCache externalCache) along).imp
    fun m serves => serves.wakesOnce
  cases taken : SSLSessionCacheManager.step m op with
  | error e => exact fun other => other (serves.step_error taken)
  | ok m' => exact serves.step waits taken

section examples

def joinedTwice : List Op :=
  [.getSession 0 sessionId₀ true, .getAsyncReturns true, .getSession 1 sessionId₀ true,
    .complete ⟨sessionId₀, 0, 0⟩ (.onGetSuccess (some 5)), .restartReturns, .restartReturns]

theorem blocked_handshakes_wake_once_joined : ∃ m, run oneEntry joinedTwice = .ok m ∧
    m.events = [.wouldBlock 0 0, .wouldBlock 0 1, .restartSSLAccept 0 0, .restartSSLAccept 0 1] ∧ WakesOnce m := by
  have along : Along SSLSessionCacheManager.step Waits oneEntry joinedTwice := by
    refine ⟨trivial, fun m₁ first => ⟨(nomatch ·), fun m₂ second => ⟨trivial, fun m₃ third => ⟨?_, ?_⟩⟩⟩⟩
    · cases first
      cases second
      cases third
      exact ⟨by decide, by decide⟩
    · exact fun _ _ => ⟨trivial, fun _ _ => ⟨trivial, fun _ _ => trivial⟩⟩
  exact ⟨_, rfl, rfl, (blocked_handshakes_wake_once _ true joinedTwice along).of_ok rfl⟩

/-- A handshake that is restarted before it is blocked, one that a null buffer leaves blocked, and one that joined a
lookup that was refused. -/
theorem blocked_handshake_not_woken :
    (∃ m, run oneEntry [.getSession 0 sessionId₀ true, .complete ⟨sessionId₀, 0, 0⟩ .onGetFailure, .restartReturns,
        .getAsyncReturns true] = .ok m ∧
      m.events = [.restartSSLAccept 0 0, .wouldBlock 0 0] ∧ contexts m = []) ∧
    (∃ m, run oneEntry [.getSession 0 sessionId₀ true, .getAsyncReturns true,
        .complete ⟨sessionId₀, 0, 0⟩ (.onGetSuccessBuf none)] = .ok m ∧
      m.events = [.wouldBlock 0 0] ∧ contexts m = [] ∧ (m.pendingLookups sessionId₀).isSome = true) ∧
    ∃ m, run oneEntry [.getSession 0 sessionId₀ true, .getSession 1 sessionId₀ true, .getAsyncReturns false] = .ok m ∧
      m.events = [.wouldBlock 0 1] ∧ contexts m = [] :=
  ⟨⟨_, rfl, rfl, rfl⟩, ⟨_, rfl, rfl, rfl, rfl⟩, ⟨_, rfl, rfl, rfl⟩⟩

end examples

end Wangle.Proof.Ssl
