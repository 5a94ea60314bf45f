import Wangle.Channel.AsyncSocketHandler

/-!
# The socket handler reports activity in pairs

`firedInactive_` is to say that nothing is active. At the beginning, when nothing is, it is false.
-/

namespace Wangle.Proof.Channel
open Wangle.Channel AsyncSocketHandler
open Wangle.Transition hiding run

variable {h h' : AsyncSocketHandler} {events : List TransportEvent}

def Active (events : List TransportEvent) : Prop := events.getLast? = some .transportActive

def Paired (events : List TransportEvent) : Prop :=
  ∀ front rest, events = front ++ .transportInactive :: rest → Active front

theorem Paired.concat {event : TransportEvent} (paired : Paired events)
    (matched : event = .transportInactive → Active events) : Paired (events ++ [event]) := by
  intro front rest split
  obtain rfl | ⟨rest, last, rfl⟩ := List.eq_nil_or_concat rest
  · obtain ⟨rfl, same⟩ := List.append_inj' split rfl
    cases same
    exact matched rfl
  · rw [List.concat_eq_append, ← List.cons_append, ← List.append_assoc] at split
    exact paired front rest (List.append_inj' split rfl).1

theorem active_concat : Active (events ++ [.transportActive]) := List.getLast?_concat

structure Matched (h : AsyncSocketHandler) : Prop where
  paired : Paired h.received
  reading : h.readCallback → Active h.received
  deletedOnce : h.deletions ≤ 1

/-- The flag says whether the last event was a `transportInactive`, once there has been any. -/
structure Flagged (h : AsyncSocketHandler) : Prop where
  paired : Paired h.received
  reading : h.readCallback → Active h.received
  deleted : h.deletions = h.pipelineDeleted.toNat
  fresh : h.received = [] → h.context ∧ h.firedInactive = false ∧ h.destroyed = false
  flagged : h.received ≠ [] → h.firedInactive = false → Active h.received
  called : ∀ next, .fireTransportInactive next ∈ h.stack → h.received ≠ []

theorem Flagged.matched (flagged : Flagged h) : Matched h where
  paired := flagged.paired
  reading := flagged.reading
  deletedOnce := by
    rw [flagged.deleted]
    exact Bool.toNat_le _

theorem Flagged.deletePipeline (flagged : Flagged h) : Flagged h.deletePipeline := by
  unfold AsyncSocketHandler.deletePipeline
  split
  · exact flagged
  · rename_i first
    have undeleted := flagged.deleted
    rw [Bool.eq_false_iff.mpr first] at undeleted
    refine { flagged with deleted := congrArg (· + 1) undeleted, called := fun next member => ?_ }
    exact flagged.called next (by simpa [call] using member)

theorem Flagged.detached (flagged : Flagged h) (seen : h.received ≠ []) {next : Detacher}
    (done : h.detached next = .ok h') : Flagged h' := by
  cases next with
  | detachEventBase =>
      simp only [AsyncSocketHandler.detached] at done
      split at done
      · cases done
        exact { flagged with }
      · cases done
  | transportInactive =>
      cases done
      exact { flagged with }
  | shutdown =>
      cases done
      exact { flagged with reading := nofun, called := fun _ _ => seen }
  | detachPipeline | destructor =>
      cases done
      exact { flagged with fresh := fun empty => absurd empty seen }

theorem Flagged.detachReadCallback (flagged : Flagged h) (seen : h.received ≠ []) {next : Detacher}
    (done : h.detachReadCallback next = .ok h') : Flagged h' := by
  unfold AsyncSocketHandler.detachReadCallback at done
  dsimp only at done
  split at done
  · rename_i fires
    simp only [Bool.and_eq_true, Bool.not_eq_true'] at fires
    cases done
    have nonempty : h.received ++ [.transportInactive] ≠ [] := List.concat_ne_nil _ _
    refine { flagged with
      paired := flagged.paired.concat fun _ => flagged.flagged seen fires.2
      reading := nofun
      fresh := fun empty => absurd empty nonempty
      flagged := fun _ => nofun
      called := fun _ _ => nonempty }
  · have cleared : Flagged { h with readCallback := false } := { flagged with reading := nofun }
    exact cleared.detached seen done

theorem Flagged.transportActive (flagged : Flagged h) {good : Bool} (done : h.transportActive good = .ok h') :
    Flagged h' := by
  unfold AsyncSocketHandler.transportActive at done
  split at done
  · cases done
    have nonempty : h.received ++ [.transportActive] ≠ [] := List.concat_ne_nil _ _
    exact { flagged with
      paired := flagged.paired.concat nofun
      reading := fun _ => active_concat
      fresh := fun empty => absurd empty nonempty
      flagged := fun _ _ => active_concat
      called := fun _ _ => nonempty }
  · cases done

def Activated (h : AsyncSocketHandler) : Op → Prop
  | .transportInactive | .detachEventBase | .detachPipeline | .destructor => h.received ≠ []
  | .close false | .writeException => h.socket → h.received ≠ []
  | _ => True

instance (h : AsyncSocketHandler) : (op : Op) → Decidable (Activated h op)
  | .transportInactive | .detachEventBase | .detachPipeline | .destructor => inferInstanceAs (Decidable (_ ≠ _))
  | .close false | .writeException => inferInstanceAs (Decidable (_ → _))
  | .close true | .transportActive _ | .readEnds | .returns => isTrue trivial

theorem Flagged.shutdown (flagged : Flagged h) (seen : h.socket → h.received ≠ []) (done : h.shutdown = .ok h') :
    Flagged h' := by
  unfold AsyncSocketHandler.shutdown at done
  split at done
  · rename_i present
    exact flagged.detachReadCallback (seen present) done
  · cases done
    exact flagged.deletePipeline

theorem Flagged.returned {frame : SocketFrame} {stack : List SocketFrame} (flagged : Flagged h)
    (top : h.stack = frame :: stack) : Flagged { h with stack } :=
  { flagged with called := fun next member => flagged.called next (top ▸ List.mem_cons_of_mem _ member) }

theorem Flagged.returns (flagged : Flagged h) (done : h.returns = .ok h') : Flagged h' := by
  unfold AsyncSocketHandler.returns at done
  split at done
  · cases done
  · rename_i stack top
    cases done
    exact flagged.returned top
  · rename_i next stack top
    split at done
    · cases done
    · exact (flagged.returned top).detached (flagged.called next (top ▸ List.mem_cons_self)) done
  · rename_i stack top
    split at done
    · cases done
    · cases done
      exact (flagged.returned top).deletePipeline
  · rename_i stack top
    cases done
    exact flagged.returned top

theorem Flagged.step {op : Op} (flagged : Flagged h) (activated : Activated h op) (taken : h.step op = .ok h') :
    Flagged h' := by
  unfold AsyncSocketHandler.step at taken
  split at taken
  · exact flagged.returns taken
  · split at taken
    · cases taken
    · cases op with
      | transportActive good => exact flagged.transportActive taken
      | transportInactive | detachEventBase | detachPipeline | destructor =>
          exact flagged.detachReadCallback activated taken
      | close shutdownWriteOnly =>
          cases shutdownWriteOnly with
          | false => exact flagged.shutdown activated taken
          | true =>
              simp only [AsyncSocketHandler.close, if_true] at taken
              split at taken <;> cases taken
              exact flagged
      | writeException => exact flagged.shutdown activated taken
      | readEnds =>
          cases taken
          exact { flagged with reading := nofun }
      | returns => exact flagged.returns taken

theorem detachReadCallback_breaks (flagged : Flagged h) (untold : h.received = []) (next : Detacher) :
    ∃ h', h.detachReadCallback next = .ok h' ∧ ¬ Matched h' := by
  obtain ⟨context, unfired, -⟩ := flagged.fresh untold
  refine ⟨_, by simp only [AsyncSocketHandler.detachReadCallback, context, unfired, Bool.not_false, Bool.and_self, if_true]; rfl,
    fun matched => ?_⟩
  have first : Active [] := matched.paired [] [] (congrArg (· ++ [TransportEvent.transportInactive]) untold)
  cases first

theorem shutdown_breaks (flagged : Flagged h) (unactivated : ¬ (h.socket → h.received ≠ [])) :
    ∃ h', h.shutdown = .ok h' ∧ ¬ Matched h' := by
  obtain ⟨present, told⟩ := Classical.not_imp.mp unactivated
  rw [AsyncSocketHandler.shutdown, if_pos present]
  exact detachReadCallback_breaks flagged (Classical.not_not.mp told) .shutdown

theorem step_breaks_pairs {op : Op} (flagged : Flagged h) (unactivated : ¬ Activated h op) :
    ∃ h', h.step op = .ok h' ∧ ¬ Matched h' := by
  have alive (untold : h.received = []) : h.destroyed = false := (flagged.fresh untold).2.2
  cases op with
  | transportInactive | detachEventBase | detachPipeline | destructor =>
      have untold := Classical.not_not.mp unactivated
      simp only [AsyncSocketHandler.step, reduceCtorEq, if_false, alive untold, Bool.false_eq_true]
      exact detachReadCallback_breaks flagged untold _
  | close shutdownWriteOnly =>
      cases shutdownWriteOnly with
      | true => exact absurd trivial unactivated
      | false =>
          have untold := Classical.not_not.mp (Classical.not_imp.mp unactivated).2
          simp only [AsyncSocketHandler.step, reduceCtorEq, if_false, alive untold, Bool.false_eq_true,
            AsyncSocketHandler.close]
          exact shutdown_breaks flagged unactivated
  | writeException =>
      have untold := Classical.not_not.mp (Classical.not_imp.mp unactivated).2
      simp only [AsyncSocketHandler.step, reduceCtorEq, if_false, alive untold, Bool.false_eq_true]
      exact shutdown_breaks flagged unactivated
  | transportActive good => exact absurd trivial unactivated
  | readEnds => exact absurd trivial unactivated
  | returns => exact absurd trivial unactivated

theorem new_flagged (socket : Bool) : Flagged { socket } where
  paired front rest split := by simp at split
  reading := nofun
  deleted := rfl
  fresh _ := ⟨rfl, rfl, rfl⟩
  flagged nonempty := absurd rfl nonempty
  called := nofun

/-- Activity is reported in pairs, whatever calls the handler again from within, all along exactly the runs in which it
has been active before its read callback is first detached. -/
theorem activity_paired_iff (socket : Bool) (ops : List Op) :
    (∀ front h, front <+: ops → run { socket } front = .ok h → Matched h) ↔ Along AsyncSocketHandler.step Activated { socket } ops :=
  always_iff_along (I := Flagged) (Q := Matched) (fun _ _ _ flagged activated taken => flagged.step activated taken)
    (fun _ _ flagged unactivated => step_breaks_pairs flagged unactivated) (fun _ flagged => flagged.matched)
    (new_flagged socket)

theorem inactive_without_active :
    ∃ h, run { socket := true } [.close false] = .ok h ∧ h.received = [.transportInactive] ∧ ¬ Matched h := by
  refine ⟨_, rfl, rfl, fun matched => ?_⟩
  have first : Active [] := matched.paired [] [] rfl
  cases first

end Wangle.Proof.Channel
