import Wangle.Proof.Proxy.Forwarding

/-!
# Half-dead connections

Every failure is only reported, so a connection stays sound as long as none comes.
-/

namespace Wangle.Proof.Proxy
open Wangle.Proxy ProxyConnection
open Wangle.Transition hiding run

def Settled (s : ProxyConnection) : Prop := s.initialised = true ∧ s.outstanding = 0 ∧ s.posted = []

/-- The frontend socket is open although it is paused for good, or its backend or itself has reported a failure. -/
def HalfDead (s : ProxyConnection) : Prop :=
  s.frontend.isOpen = true ∧ (s.frontend.readCallback = false ∨ s.reported ≠ [])

def Healthy : Op → Prop
  | .init throws => throws = false
  | .connectErr => False
  | .readEOF side => side = .frontend
  | .readErr _ => False
  | .timeoutExpired => False
  | .dropConnection => False
  | _ => True

structure Sound (s : ProxyConnection) : Prop where
  silent : s.reported = []
  answered : ∀ connected ∈ s.posted, connected = true
  underway : s.initialised = true → s.outstanding ≠ 0 ∨ s.posted ≠ [] ∨ s.backendPipeline = true
  reading : s.backendPipeline = true → s.frontend.isOpen = true → s.frontend.readCallback = true

theorem Sound.not_halfDead {s : ProxyConnection} (sound : Sound s) (settled : Settled s) : ¬ HalfDead s := by
  obtain ⟨initialised, idle, ran⟩ := settled
  rintro ⟨isOpen, paused | reported⟩
  · rcases sound.underway initialised with outstanding | posted | pointer
    · exact outstanding idle
    · exact posted ran
    · rw [sound.reading pointer isOpen] at paused
      cases paused
  · exact reported sound.silent

section
variable {consumer dubbo : List UInt8} {s s' : ProxyConnection}

theorem init_sound (phase : Phase consumer dubbo s) (sound : Sound s) (taken : s.init false = .ok s') : Sound s' := by
  cases phase with
  | accepted =>
      cases taken
      exact ⟨rfl, nofun, fun _ => .inl nofun, nofun⟩
  | connecting | failing | failed | connected | serving | closed => cases taken

theorem connectSuccess_sound (phase : Phase consumer dubbo s) (sound : Sound s) (taken : s.connectSuccess = .ok s') :
    Sound s' := by
  cases phase with
  | connecting =>
      cases taken
      exact ⟨sound.silent, by simp, fun _ => .inr (.inl nofun), nofun⟩
  | accepted | failing | failed | connected | serving | closed => cases taken

theorem runPosted_sound (phase : Phase consumer dubbo s) (sound : Sound s) (taken : s.runPosted = .ok s') : Sound s' := by
  cases phase with
  | failing =>
      have failed := sound.answered false (List.mem_singleton_self _)
      cases failed
  | connected =>
      cases taken
      exact ⟨sound.silent, nofun, fun _ => .inr (.inr rfl), fun _ _ => rfl⟩
  | accepted | connecting | failed | serving | closed => cases taken

theorem Sound.frame {frontend : SocketPipeline} (sound : Sound s) (isOpen : frontend.isOpen = s.frontend.isOpen)
    (readCallback : frontend.readCallback = s.frontend.readCallback) (backend : Option SocketPipeline) :
    Sound { s with frontend := frontend, backend := backend } := by
  refine ⟨sound.silent, sound.answered, sound.underway, fun pointer opened => ?_⟩
  exact readCallback.trans (sound.reading pointer (isOpen.symm.trans opened))

theorem write_ok {p p' : SocketPipeline} {buf : List UInt8} (taken : p.write buf = .ok p') :
    p' = { p with written := p.written ++ buf } := by
  rw [SocketPipeline.write] at taken
  split at taken
  · cases taken
    rfl
  · cases taken

theorem read_sound {side : Side} {bytes : List UInt8} (sound : Sound s) (taken : s.read bytes side = .ok s') :
    Sound s' := by
  cases side with
  | frontend =>
      rw [ProxyConnection.read] at taken
      split at taken
      · obtain ⟨backend, found, taken⟩ := bind_eq_ok.mp taken
        obtain ⟨backend, written, taken⟩ := bind_eq_ok.mp taken
        cases taken
        exact sound.frame (by rfl) (by rfl) _
      · cases taken
  | backend =>
      rw [ProxyConnection.read] at taken
      split at taken
      · cases taken
      · split at taken
        · obtain ⟨frontend, written, taken⟩ := bind_eq_ok.mp taken
          cases taken
          cases write_ok written
          exact sound.frame (by rfl) (by rfl) _
        · cases taken

theorem readEOF_sound (phase : Phase consumer dubbo s) (sound : Sound s) (taken : s.readEOF .frontend = .ok s') :
    Sound s' := by
  rw [ProxyConnection.readEOF] at taken
  split at taken
  · rename_i attached
    obtain ⟨frontend, backend, reported, rfl, opened, responses, requests⟩ := phase.serving_of_attached attached
    simp only [getBackend, requests.close.1, responses.detach.close.1, bind, Except.bind, pure, Except.pure] at taken
    cases taken
    exact ⟨sound.silent, sound.answered, sound.underway, fun _ isOpen => by cases isOpen⟩
  · cases taken

theorem step_sound {op : Op} (phase : Phase consumer dubbo s) (sound : Sound s) (healthy : Healthy op)
    (taken : s.step op = .ok s') : Sound s' := by
  cases op with
  | init throws =>
      cases healthy
      exact init_sound phase sound taken
  | connectSuccess => exact connectSuccess_sound phase sound taken
  | runPosted => exact runPosted_sound phase sound taken
  | read side bytes => exact read_sound sound taken
  | readEOF side =>
      cases healthy
      exact readEOF_sound phase sound taken
  | connectErr | readErr | timeoutExpired | dropConnection => exact healthy.elim

end

theorem run_not_halfDead (ops : List Op) (s : ProxyConnection) (healthy : ∀ op ∈ ops, Healthy op)
    (done : run {} ops = .ok s) (settled : Settled s) : ¬ HalfDead s := by
  have start : (∃ consumer dubbo, Phase consumer dubbo {}) ∧ Sound {} :=
    ⟨⟨[], [], .accepted ⟨rfl, rfl⟩⟩, rfl, nofun, nofun, nofun⟩
  have along : Along step (fun _ op => True ∧ Healthy op) {} ops := along_and (along_true _ ops) healthy
  refine (run_invariant (I := fun s => (∃ consumer dubbo, Phase consumer dubbo s) ∧ Sound s) ?_ start along done).2.not_halfDead
    settled
  rintro s op s' ⟨⟨consumer, dubbo, phase⟩, sound⟩ permitted taken
  exact ⟨⟨_, _, step_phase phase taken⟩, step_sound phase sound permitted.2 taken⟩

instance : DecidablePred Healthy := fun op => by
  unfold Healthy
  split <;> infer_instance

instance (s : ProxyConnection) : Decidable (Settled s) := by
  unfold Settled
  infer_instance

instance (s : ProxyConnection) : Decidable (HalfDead s) := by
  unfold HalfDead
  infer_instance

def serving : List Op := [.init false, .connectSuccess, .runPosted, .read .frontend [1, 2], .read .backend [7]]

theorem serving_not_halfDead : ∃ s, run {} serving = .ok s ∧ s.frontend.isOpen = true ∧ ¬ HalfDead s := by
  obtain ⟨s, done, isOpen, settled⟩ : ∃ s, run {} serving = .ok s ∧ s.frontend.isOpen = true ∧ Settled s :=
    Ends.exists_ok (by decide +kernel)
  exact ⟨s, done, isOpen, run_not_halfDead serving s (by decide) done settled⟩

/-- A connect that fails or throws, the end or an error of the backend, and a timeout or a drop of the frontend
each leave the frontend open. So does an error of the frontend, for which folly has closed the descriptor by itself: its
pipeline stays, and with it the backend. -/
theorem failures_halfDead :
    (∃ s, run {} [.init true] = .ok s ∧ Settled s ∧ HalfDead s) ∧
    (∃ s, run {} [.init false, .connectErr, .runPosted] = .ok s ∧ Settled s ∧ HalfDead s) ∧
    (∃ s, run {} (serving ++ [.readEOF .backend]) = .ok s ∧ Settled s ∧ HalfDead s) ∧
    (∃ s, run {} (serving ++ [.readErr .backend]) = .ok s ∧ Settled s ∧ HalfDead s) ∧
    (∃ s, run {} (serving ++ [.readErr .frontend]) = .ok s ∧ Settled s ∧ HalfDead s) ∧
    (∃ s, run {} (serving ++ [.timeoutExpired]) = .ok s ∧ Settled s ∧ HalfDead s) ∧
    ∃ s, run {} (serving ++ [.dropConnection]) = .ok s ∧ Settled s ∧ HalfDead s :=
  ⟨Ends.exists_ok (by decide +kernel), Ends.exists_ok (by decide +kernel), Ends.exists_ok (by decide +kernel),
    Ends.exists_ok (by decide +kernel), Ends.exists_ok (by decide +kernel), Ends.exists_ok (by decide +kernel),
    Ends.exists_ok (by decide +kernel)⟩

end Wangle.Proof.Proxy
