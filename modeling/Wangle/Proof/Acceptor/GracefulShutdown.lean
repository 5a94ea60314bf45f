import Wangle.Proof.Acceptor.Progress

/-!
# A graceful shutdown reaches every connection
-/

namespace Wangle.Proof.Acceptor
open Wangle.Acceptor Wangle.Intrusive Wangle.Transition ConnectionManager

variable {Conn : Type} [DecidableEq Conn]

def Served (s : ConnectionManager Conn) (c : Conn) : Prop :=
  s.drainState c = .sentCloseWhenIdle ∨ c ∈ s.pendingAdds

def Covered (s : ConnectionManager Conn) (c : Conn) : Prop :=
  match s.drainHelper.shutdownState with
  | .none => True
  | .notifyPendingShutdown => s.drainState c ≠ .none ∨ c ∈ remaining s
  | .notifyPendingShutdownComplete => s.drainState c ≠ .none
  | .closeWhenIdle => Served s c ∨ (c ∈ remaining s ∧ Ready s c)
  | .closeWhenIdleComplete => Served s c

def Past (s : ConnectionManager Conn) (c : Conn) : Prop :=
  (s.drainHelper.shutdownState = .notifyPendingShutdown → s.drainState c ≠ .none) ∧
    (s.drainHelper.shutdownState = .closeWhenIdle → Served s c)

/-- The only drain is a full one, and a connection behind the drain iterator is not activated before the
pass has visited it. -/
def Unpassed (s : ConnectionManager Conn) : Op Conn → Prop
  | .onActivated c => c ∈ (remaining s).tail → Past s c
  | .drainConnections _ _ _ => False
  | .dropConnections _ _ => False
  | .dropAllConnections _ => False
  | .dropIdleConnections _ _ _ => False
  | _ => True

structure Covering (s : ConnectionManager Conn) : Prop extends WellFormed s where
  full : s.drainHelper.all = true
  willing : s.drainHelper.shutdownState ≤ .notifyPendingShutdownComplete → s.notifyPendingShutdown = true
  covered : ∀ c ∈ s.conns, Covered s c
  ready : ∀ c ∈ s.pendingAdds, Ready s c

/-! ## A turn of the drain helper -/

omit [DecidableEq Conn] in
theorem Served.mono {s s' : ConnectionManager Conn} {c : Conn} (served : Served s c)
    (advances : Advances (s.drainState c) (s'.drainState c)) (pending : c ∈ s.pendingAdds → c ∈ s'.pendingAdds) :
    Served s' c :=
  served.imp advances.closed pending

structure Owed (rest : List Conn) (m : ConnectionManager Conn) (c : Conn) : Prop where
  notify : m.drainHelper.shutdownState = .notifyPendingShutdown → m.drainState c ≠ .none ∨ c ∈ rest
  close : m.drainHelper.shutdownState = .closeWhenIdle → Served m c ∨ (c ∈ rest ∧ Ready m c)

theorem Drained.owed {seen rest : List Conn} {entry m : ConnectionManager Conn}
    (drained : Drained (remaining entry) seen rest entry m) {c : Conn} (member : c ∈ m.conns)
    (covered : Covered entry c) : Owed rest m c := by
  have same := drained.effects.sameDrain
  have advances := drained.effects.advances c
  constructor
  · intro notifying
    rw [same.drainHelper] at notifying
    simp only [Covered, notifying] at covered
    rcases covered with sent | ahead
    · exact .inl (advances.sent sent)
    · refine (drained.covers c ahead member).imp (fun seen => ?_) id
      rw [drained.drainState_seen c seen]
      exact visited_ne_none notifying
  · intro closing
    rw [same.drainHelper] at closing
    simp only [Covered, closing] at covered
    rcases covered with served | ⟨ahead, ready⟩
    · exact .inl (served.mono advances fun pending => by rwa [same.pendingAdds])
    · rcases drained.covers c ahead member with seen | left
      · refine .inl (.inl ?_)
        rw [drained.drainState_seen c seen]
        exact visited_closed ready closing
      · exact .inr ⟨left, ready.mono (fun force => by rwa [same.notifyPendingShutdown]) advances⟩

theorem Finished.covered {rest before : List Conn} {m s' : ConnectionManager Conn} (finished : Finished rest m s')
    (active : Active m.drainHelper) (full : m.drainHelper.all = true) (nodup : m.conns.Nodup)
    (eq : m.conns = before ++ rest) {c : Conn} (member : c ∈ m.conns) (owed : Owed rest m c) : Covered s' c := by
  cases finished with
  | more left =>
      have ahead : onward rest.head? m.conns = rest := (Divides.mk eq rfl).onward_eq nodup
      rcases active with notifying | closing
      · simpa only [Covered, notifying, remaining, ahead] using owed.notify notifying
      · simpa only [Covered, closing, remaining, ahead, Served, Ready] using owed.close closing
  | notified empty notifying waiting =>
      subst empty
      simpa [Covered] using owed.notify notifying
  | expired empty notifying late =>
      subst empty
      have sent : m.drainState c ≠ .none := by simpa using owed.notify notifying
      refine .inr ⟨?_, .inr sent⟩
      exact mem_remaining_of_start member nodup full rfl rfl
  | closed empty closing =>
      subst empty
      simpa [Covered, Served] using owed.close (active.resolve_left closing)

theorem not_early : ¬ ShutdownState.closeWhenIdle ≤ .notifyPendingShutdownComplete := by decide

theorem Enters.covering {s entry : ConnectionManager Conn} {op : Op Conn} {reaction : Reaction Conn}
    (enters : Enters s op reaction entry) (covering : Covering s) (unpassed : Unpassed s op) : Covering entry := by
  have wf := covering.toWellFormed
  have wf' := enters.wellFormed wf
  cases enters with
  | @initiate idleGrace reaction idle =>
      have none : s.drainHelper.shutdownState = .none := by
        simpa [DrainHelper.getShutdownState, covering.full] using idle
      have flag : s.notifyPendingShutdown = true := covering.willing (by rw [none]; decide)
      by_cases grace : idleGrace > 0
      · rw [beginDrain_of_grace grace] at wf' ⊢
        refine ⟨wf', rfl, fun _ => flag, fun c member => .inr ?_, covering.ready⟩
        apply mem_remaining_of_start member wf.nodup <;> rfl
      · rw [beginDrain_of_not_grace grace] at wf' ⊢
        refine ⟨wf', rfl, fun early => absurd early not_early, fun c member => .inr ⟨?_, .inl rfl⟩, fun c _ => .inl rfl⟩
        apply mem_remaining_of_start member wf.nodup <;> rfl
  | drain idle => exact unpassed.elim
  | loop scheduled => exact ⟨wf', covering.full, covering.willing, covering.covered, covering.ready⟩
  | timeout scheduled complete =>
      refine ⟨wf', covering.full, fun early => absurd early not_early, fun c member => ?_, covering.ready⟩
      have sent := covering.covered c member
      simp only [Covered, complete] at sent
      refine .inr ⟨?_, .inr sent⟩
      exact mem_remaining_of_start member wf.nodup covering.full rfl rfl

theorem drainConnections_covered {reaction : Reaction Conn} {entry s' : ConnectionManager Conn}
    (wf : WellFormed entry) (full : entry.drainHelper.all = true) (covered : ∀ c ∈ entry.conns, Covered entry c)
    (done : DrainHelper.drainConnections reaction entry = .ok s') :
    s'.drainHelper.all = true ∧ ∀ c ∈ s'.conns, Covered s' c := by
  obtain ⟨active, seen, rest, m, -, drained, finished⟩ := drainConnections_ok wf done
  have same := drained.effects.sameDrain
  obtain ⟨before, eq⟩ := drained.conns
  have full : m.drainHelper.all = true := by rw [same.drainHelper, full]
  refine ⟨by cases finished <;> exact full, fun c member => ?_⟩
  rw [finished.same.1] at member
  refine finished.covered (by rwa [same.drainHelper]) full (drained.effects.wellFormed wf).nodup eq member ?_
  exact drained.owed member (covered c (drained.effects.conns_sublist.subset member))

theorem drainConnections_covering {reaction : Reaction Conn} {entry s' : ConnectionManager Conn}
    (covering : Covering entry) (done : DrainHelper.drainConnections reaction entry = .ok s') : Covering s' := by
  have wf := covering.toWellFormed
  obtain ⟨full, covered⟩ := drainConnections_covered wf covering.full covering.covered done
  obtain ⟨active, seen, rest, m, looped, drained, finished⟩ := drainConnections_ok wf done
  have same := drained.effects.sameDrain
  obtain ⟨-, states, -, flag, pendingAdds⟩ := finished.same
  refine ⟨drainConnections_wellFormed wf done, full, ?_, covered, ?_⟩
  · intro early
    rw [flag, same.notifyPendingShutdown]
    refine covering.willing ?_
    rw [← same.drainHelper]
    cases finished with
    | more left => exact early
    | notified empty notifying waiting =>
        rw [notifying]
        decide
    | expired empty notifying late => exact absurd early not_early
    | closed empty closing =>
        exact absurd early (show ¬ ShutdownState.closeWhenIdleComplete ≤ .notifyPendingShutdownComplete by decide)
  · intro c pending
    rw [pendingAdds, same.pendingAdds] at pending
    refine (covering.ready c pending).mono (fun force => by rw [flag, same.notifyPendingShutdown, force]) ?_
    rw [states]
    exact drained.effects.advances c

/-! ## Every step -/

theorem Covered.mono {s s' : ConnectionManager Conn} {c : Conn} (covered : Covered s c)
    (state : s'.drainHelper.shutdownState = s.drainHelper.shutdownState)
    (flag : s'.notifyPendingShutdown = s.notifyPendingShutdown)
    (advances : Advances (s.drainState c) (s'.drainState c)) (served : Served s c → Served s' c)
    (ahead : c ∈ remaining s → c ∈ remaining s' ∨ Past s c) : Covered s' c := by
  unfold Covered at covered ⊢
  rw [state]
  cases phase : s.drainHelper.shutdownState with
  | none => trivial
  | notifyPendingShutdown =>
      simp only [phase] at covered ⊢
      rcases covered with sent | member
      · exact .inl (advances.sent sent)
      · exact (ahead member).elim .inr fun past => .inl (advances.sent (past.1 phase))
  | notifyPendingShutdownComplete =>
      simp only [phase] at covered ⊢
      exact advances.sent covered
  | closeWhenIdle =>
      simp only [phase] at covered ⊢
      rcases covered with done | ⟨member, ready⟩
      · exact .inl (served done)
      · rcases ahead member with member | past
        · exact .inr ⟨member, ready.mono (fun force => by rw [flag, force]) advances⟩
        · exact .inl (served (past.2 phase))
  | closeWhenIdleComplete =>
      simp only [phase] at covered ⊢
      exact served covered

theorem Covered.of_served {s : ConnectionManager Conn} {c : Conn} (served : Served s c)
    (closing : .closeWhenIdle ≤ s.drainHelper.shutdownState) : Covered s c := by
  unfold Covered
  cases phase : s.drainHelper.shutdownState with
  | none => trivial
  | notifyPendingShutdown =>
      rw [phase] at closing
      exact absurd closing (by decide)
  | notifyPendingShutdownComplete =>
      rw [phase] at closing
      exact absurd closing (by decide)
  | closeWhenIdle => exact .inl served
  | closeWhenIdleComplete => exact served

theorem Covered.of_sent {s : ConnectionManager Conn} {c : Conn}
    (sent : .notifyPendingShutdown ≤ s.drainHelper.shutdownState → s.drainState c ≠ .none)
    (early : ¬ .closeWhenIdle ≤ s.drainHelper.shutdownState) : Covered s c := by
  unfold Covered
  cases phase : s.drainHelper.shutdownState with
  | none => trivial
  | notifyPendingShutdown => exact .inl (sent (by rw [phase]; decide))
  | notifyPendingShutdownComplete => exact sent (by rw [phase]; decide)
  | closeWhenIdle =>
      rw [phase] at early
      exact absurd (by decide) early
  | closeWhenIdleComplete =>
      rw [phase] at early
      exact absurd (by decide) early

theorem Covering.keep {s s' : ConnectionManager Conn} (covering : Covering s) (wf : WellFormed s')
    (helper : s'.drainHelper = s.drainHelper) (flag : s'.notifyPendingShutdown = s.notifyPendingShutdown)
    (covered : ∀ c ∈ s'.conns, Covered s' c) (ready : ∀ c ∈ s'.pendingAdds, Ready s' c) : Covering s' :=
  ⟨wf, by rw [helper, covering.full], by rw [helper, flag]; exact covering.willing, covered, ready⟩

theorem Effects.covered {s s' : ConnectionManager Conn} (effects : Effects s s') (wf : WellFormed s) {c : Conn}
    (member : c ∈ s'.conns) (covered : Covered s c) : Covered s' c := by
  have same := effects.sameDrain
  refine covered.mono (by rw [same.drainHelper]) same.notifyPendingShutdown (effects.advances c) ?_ fun ahead =>
    .inl (effects.remaining wf ahead member)
  exact fun served => served.mono (effects.advances c) (by rw [same.pendingAdds]; exact id)

theorem Effects.covering {s s' : ConnectionManager Conn} (effects : Effects s s') (covering : Covering s) :
    Covering s' := by
  have wf := covering.toWellFormed
  have same := effects.sameDrain
  refine covering.keep (effects.wellFormed wf) same.drainHelper same.notifyPendingShutdown ?_ ?_
  · intro c member
    exact effects.covered wf member (covering.covered c (effects.conns_sublist.subset member))
  · intro c pending
    rw [same.pendingAdds] at pending
    exact (covering.ready c pending).mono (fun force => by rw [same.notifyPendingShutdown, force]) (effects.advances c)

theorem covered_push_front {s s' : ConnectionManager Conn} {c x : Conn} (wf : WellFormed s) (covered : Covered s c)
    (unpassed : x ∈ (remaining s).tail → Past s x) (conns : s'.conns = x :: s.conns.erase x)
    (iterator : s'.drainIterator = s.drainIterator) (helper : s'.drainHelper = s.drainHelper)
    (flag : s'.notifyPendingShutdown = s.notifyPendingShutdown) (states : s'.drainState = s.drainState)
    (pendingAdds : s'.pendingAdds = s.pendingAdds) : Covered s' c := by
  have served : Served s c → Served s' c := by
    rw [Served, Served, states, pendingAdds]
    exact id
  refine covered.mono (by rw [helper]) flag (by rw [states]; exact .refl _) served fun ahead => ?_
  -- the connection has got before the iterator
  by_cases passed : x ∈ (remaining s).tail ∧ c = x
  · exact .inr (passed.2 ▸ unpassed passed.1)
  · rw [remaining, conns, iterator]
    refine .inl (onward_move_front wf.nodup wf.drain ahead fun same => ?_)
    subst same
    exact (mem_remaining wf ahead).resolve_right fun later => passed ⟨later, rfl⟩

theorem covered_push_back {s s' : ConnectionManager Conn} {c x : Conn} (wf : WellFormed s) (covered : Covered s c)
    (conns : s'.conns = s.conns.erase x ++ [x])
    (iterator : s'.drainIterator =
      if s.drainIterator = some x then (next x s.conns).or (some x) else s.drainIterator)
    (helper : s'.drainHelper = s.drainHelper) (flag : s'.notifyPendingShutdown = s.notifyPendingShutdown)
    (states : s'.drainState = s.drainState) (pendingAdds : s'.pendingAdds = s.pendingAdds) : Covered s' c := by
  have served : Served s c → Served s' c := by
    rw [Served, Served, states, pendingAdds]
    exact id
  refine covered.mono (by rw [helper]) flag (by rw [states]; exact .refl _) served fun ahead => .inl ?_
  rw [remaining, conns, iterator]
  exact onward_move_back wf.nodup wf.drain ahead

theorem inserted_remaining {s : ConnectionManager Conn} (wf : WellFormed s) (c : Conn) :
    remaining (inserted c s) = remaining s := by
  unfold inserted
  split
  · rfl
  · rename_i unknown
    obtain ⟨calls, equal, -⟩ := insertConnection_eq c s
    rw [equal]
    exact onward_push_front_new wf.drain (fun member => unknown ((wf.managed c).mpr member)) wf.nodup

theorem inserted_mem {c x : Conn} {s : ConnectionManager Conn} (member : c ∈ (inserted x s).conns) :
    c = x ∨ c ∈ s.conns := by
  unfold inserted at member
  split at member
  · exact .inr member
  · obtain ⟨calls, equal, -⟩ := insertConnection_eq x s
    rw [equal] at member
    exact List.mem_cons.mp member

theorem greeted_sent {reaction : Reaction Conn} {c : Conn} {s : ConnectionManager Conn}
    (draining : .notifyPendingShutdown ≤ s.drainHelper.getShutdownState) (flag : s.notifyPendingShutdown = true) :
    (greeted reaction c s).drainState c ≠ .none := by
  have same := inserted_sameDrain c s
  rw [greeted, if_pos ⟨by rwa [same.drainHelper], by rwa [same.notifyPendingShutdown]⟩]
  exact fireNotifyPendingShutdown_sent reaction c _

theorem addConnection_covering {s : ConnectionManager Conn} (covering : Covering s) (reaction : Reaction Conn)
    (x : Conn) : Covering (s.addConnection reaction x) := by
  have wf := covering.toWellFormed
  have effects := greeted_effects reaction x s
  have same := (inserted_sameDrain x s).trans effects.sameDrain
  have advances (c : Conn) : Advances (s.drainState c) ((greeted reaction x s).drainState c) := by
    have through := effects.advances c
    rwa [(inserted_quietly x s).drainState] at through
  have shutdownState : (greeted reaction x s).drainHelper.getShutdownState = s.drainHelper.shutdownState := by
    rw [same.drainHelper, DrainHelper.getShutdownState, if_pos covering.full]
  have told (draining : .notifyPendingShutdown ≤ s.drainHelper.shutdownState) : Ready (greeted reaction x s) x := by
    cases flag : s.notifyPendingShutdown with
    | false => exact .inl (by rw [same.notifyPendingShutdown, flag])
    | true =>
        refine .inr (greeted_sent ?_ flag)
        rwa [DrainHelper.getShutdownState, if_pos covering.full]
  have others {c : Conn} (member : c ∈ (greeted reaction x s).conns) (old : c ∈ s.conns) :
      Covered (greeted reaction x s) c := by
    refine (covering.covered c old).mono (by rw [same.drainHelper]) same.notifyPendingShutdown (advances c)
      (fun served => served.mono (advances c) (by rw [same.pendingAdds]; exact id)) fun ahead => .inl ?_
    rw [← inserted_remaining wf x] at ahead
    exact effects.remaining (inserted_wellFormed wf x) ahead member
  have readied : ∀ c ∈ (greeted reaction x s).pendingAdds, Ready (greeted reaction x s) c := by
    intro c pending
    rw [same.pendingAdds] at pending
    exact (covering.ready c pending).mono (fun force => by rw [same.notifyPendingShutdown, force]) (advances c)
  have old_or_new {c : Conn} (member : c ∈ (greeted reaction x s).conns) : c = x ∨ c ∈ s.conns :=
    inserted_mem (effects.conns_sublist.subset member)
  have wf' := addConnection_wellFormed wf reaction x
  rw [addConnection_eq, shutdownState] at wf' ⊢
  split
  · rename_i closing
    rw [if_pos closing] at wf'
    refine covering.keep wf' same.drainHelper same.notifyPendingShutdown (fun c member => ?_) (fun c pending => ?_)
    · rcases old_or_new member with rfl | old
      · refine Covered.of_served (.inr (by simp)) ?_
        rwa [← same.drainHelper] at closing
      · exact (others member old).mono rfl rfl (.refl _)
          (fun served => served.mono (.refl _) fun pending => List.mem_append_left _ pending) .inl
    · rcases List.mem_append.mp pending with old | new
      · exact readied c old
      · rw [List.mem_singleton.mp new]
        exact told (Nat.le_trans (by decide) closing)
  · rename_i early
    rw [if_neg early] at wf'
    refine covering.keep wf' same.drainHelper same.notifyPendingShutdown (fun c member => ?_) readied
    rcases old_or_new member with rfl | old
    · rw [← same.drainHelper] at early
      refine Covered.of_sent (fun draining => ?_) early
      rw [same.drainHelper] at draining early
      refine greeted_sent (by rwa [DrainHelper.getShutdownState, if_pos covering.full]) (covering.willing ?_)
      exact Nat.lt_succ_iff.mp (Nat.not_le.mp early)
    · exact others member old

theorem pendingAdd_covering {s s' : ConnectionManager Conn} {x : Conn} (covering : Covering s)
    (effects : Effects (linkedAdd s x) s') (told : x ∈ s'.conns → s'.drainState x = .sentCloseWhenIdle) :
    Covering s' := by
  have wf : WellFormed (linkedAdd s x) := covering.toWellFormed.of_eq rfl rfl rfl rfl
  have same := effects.sameDrain
  have flag : s'.notifyPendingShutdown = s.notifyPendingShutdown := same.notifyPendingShutdown
  have pendingAdds : s'.pendingAdds = s.pendingAdds.erase x := same.pendingAdds
  refine covering.keep (effects.wellFormed wf) same.drainHelper flag (fun c member => ?_) (fun c pending => ?_)
  · refine (covering.covered c (effects.conns_sublist.subset member)).mono (congrArg _ same.drainHelper) flag
      (effects.advances c) ?_ fun ahead => .inl (effects.remaining wf ahead member)
    rintro (closed | pending)
    · exact .inl ((effects.advances c).closed closed)
    · by_cases own : c = x
      · subst own
        exact .inl (told member)
      · refine .inr ?_
        rw [pendingAdds]
        exact (List.mem_erase_of_ne own).mpr pending
  · rw [pendingAdds] at pending
    exact (covering.ready c (List.mem_of_mem_erase pending)).mono (fun force => by rw [flag, force])
      (effects.advances c)

theorem step_covering {s s' : ConnectionManager Conn} {op : Op Conn} (covering : Covering s)
    (unpassed : Unpassed s op) (taken : s.step op = .ok s') : Covering s' := by
  have wf := covering.toWellFormed
  have wf' := step_wellFormed wf taken
  cases stepCase taken with
  | turn enters done => exact drainConnections_covering (enters.covering covering unpassed) done
  | initiateIgnored busy => exact covering
  | drainIgnored busy => exact covering
  | timeoutIgnored early => exact ⟨wf', covering.full, covering.willing, covering.covered, covering.ready⟩
  | add => exact addConnection_covering covering _ _
  | remove => exact (removeConnection_effects _ s).covering covering
  | @activate x member =>
      refine covering.keep wf' rfl rfl (fun c inside => ?_) covering.ready
      have covered := covering.covered c ((mem_push_front wf member c).mp inside)
      exact covered_push_front wf covered unpassed rfl rfl rfl rfl rfl rfl
  | @deactivate x member =>
      refine covering.keep wf' rfl rfl (fun c inside => ?_) covering.ready
      have covered := covering.covered c ((mem_push_back wf member c).mp inside)
      exact covered_push_back wf covered rfl rfl rfl rfl rfl rfl
  | @pendingAdd x reaction pending linked =>
      have ready : Ready (linkedAdd s x) x := covering.ready x pending
      exact pendingAdd_covering covering (fireCloseWhenIdle_effects reaction x (linkedAdd s x)) fun _ =>
        fireCloseWhenIdle_closed reaction ready
  | pendingAddUnlinked pending unlinked =>
      exact pendingAdd_covering covering .refl fun member => absurd member unlinked
  | dropConnections => exact unpassed.elim
  | dropAll => exact unpassed.elim
  | dropIdle => exact unpassed.elim

/-- In every run in which no connection is activated behind the drain iterator before the pass has visited
it, a full drain that is complete has told every connection that is still managed to close, or has a
closure of `addConnection` left that will tell it. -/
theorem run_tells_all (timeout : Int) (hasCallback : Bool) (ops : List (Op Conn)) (s : ConnectionManager Conn)
    (unpassed : Along step Unpassed (init timeout hasCallback) ops)
    (done : (init timeout hasCallback).run ops = .ok s)
    (complete : s.drainHelper.shutdownState = .closeWhenIdleComplete) (c : Conn) (member : c ∈ s.conns) :
    .closeWhenIdle c ∈ s.trace ∨
      (c ∈ s.pendingAdds ∧
        (s.notifyPendingShutdown = false ∨ s.drainState c = .sentNotifyPendingShutdown)) := by
  have start : Covering (init timeout hasCallback : ConnectionManager Conn) :=
    ⟨init_wellFormed timeout hasCallback, rfl, fun _ => rfl, by simp [init], by simp [init]⟩
  obtain ⟨covering, recorded⟩ : Covering s ∧ Recorded s := by
    refine run_invariant (I := fun s => Covering s ∧ Recorded s) ?_ ⟨start, init_recorded timeout hasCallback⟩
      unpassed done
    exact fun m op m' holds permitted taken => ⟨step_covering holds.1 permitted taken,
      (step_changes holds.1.toWellFormed taken).recorded holds.2⟩
  have served := covering.covered c member
  simp only [Covered, complete] at served
  rcases served with closed | pending
  · exact .inl ((recorded c).mpr closed)
  · rcases (covering.ready c pending).cases with closed | due
    · exact .inl ((recorded c).mpr closed)
    · exact .inr ⟨pending, due⟩

instance (s : ConnectionManager Conn) (c : Conn) : Decidable (Past s c) := by
  unfold Past Served
  infer_instance

instance (s : ConnectionManager Conn) : (op : Op Conn) → Decidable (Unpassed s op)
  | .onActivated c => decidable_of_iff (c ∉ (remaining s).tail ∨ Past s c) imp_iff_not_or.symm
  | .drainConnections _ _ _ | .dropConnections _ _ | .dropAllConnections _ | .dropIdleConnections _ _ _ => isFalse id
  | .addConnection _ _ | .removeConnection _ | .onDeactivated _ | .initiateGracefulShutdown _ _ | .runLoopCallback _
  | .timeoutExpired _ | .runPendingAdd _ _ => isTrue trivial

theorem run_tells_all_shutdown :
    ∃ s : ConnectionManager Nat, (init 0 false).run
        [.addConnection 1 fun _ => [], .addConnection 2 fun _ => [], .initiateGracefulShutdown 50 fun _ => [],
          .onActivated 1, .timeoutExpired fun _ => [], .addConnection 3 fun _ => []] = .ok s ∧
      ∀ c ∈ s.conns, .closeWhenIdle c ∈ s.trace ∨
        (c ∈ s.pendingAdds ∧
          (s.notifyPendingShutdown = false ∨ s.drainState c = .sentNotifyPendingShutdown)) :=
  ⟨_, rfl, run_tells_all 0 false
    [.addConnection 1 fun _ => [], .addConnection 2 fun _ => [], .initiateGracefulShutdown 50 fun _ => [],
      .onActivated 1, .timeoutExpired fun _ => [], .addConnection 3 fun _ => []] _ (by decide +kernel) rfl rfl⟩

/-- Of 66 connections the first turn of a shutdown notifies all but 1 and 0. When 0 is activated then, it
gets before the iterator, and since it is not notified it is not told to close either. -/
theorem activation_escapes_shutdown :
    ∃ s : ConnectionManager Nat, (init 0 false).run ((List.range 66).map (.addConnection · fun _ => []) ++
        [.initiateGracefulShutdown 50 fun _ => [], .onActivated 0, .runLoopCallback fun _ => [],
          .timeoutExpired fun _ => [], .runLoopCallback fun _ => []]) = .ok s ∧
      s.drainHelper.shutdownState = .closeWhenIdleComplete ∧ 0 ∈ s.conns ∧
        ¬ (.closeWhenIdle 0 ∈ s.trace ∨ 0 ∈ s.pendingAdds) :=
  Ends.exists_ok (by decide +kernel)

end Wangle.Proof.Acceptor
