import Wangle.Proxy.ProviderAgent

/-!
# What the proxy forwards

The life of a connection is a sequence of phases. The frontend pipeline is paused from the first activation
until the continuation of the connect has set the backend pointer.
-/

namespace Wangle.Proof.Proxy
open Wangle.Proxy ProxyConnection
open Wangle.Transition hiding run

def received (side : Side) : Op → List UInt8
  | .read s bytes => if s = side then bytes else []
  | _ => []

def stream (side : Side) (ops : List Op) : List UInt8 := ops.flatMap (received side)

theorem stream_concat (side : Side) (past : List Op) (op : Op) :
    stream side (past ++ [op]) = stream side past ++ received side op := by
  simp [stream]

structure Carries (p : SocketPipeline) (bytes : List UInt8) : Prop where
  transport : p.transport = true
  emptied : p.bufQueue = []
  written : p.written = bytes

inductive Phase (consumer dubbo : List UInt8) : ProxyConnection → Prop
  | accepted (none : consumer = [] ∧ dubbo = []) : Phase consumer dubbo {}
  | connecting (none : consumer = [] ∧ dubbo = []) (reported : List Report) :
      Phase consumer dubbo ⟨{}, true, .none, false, 1, 1, [], reported⟩
  | failing (none : consumer = [] ∧ dubbo = []) (reported : List Report) :
      Phase consumer dubbo ⟨{}, true, .none, false, 1, 0, [false], reported⟩
  | failed (none : consumer = [] ∧ dubbo = []) (reported : List Report) :
      Phase consumer dubbo ⟨{}, true, .none, false, 1, 0, [], reported⟩
  | connected (none : consumer = [] ∧ dubbo = []) (backend : SocketPipeline) (carries : Carries backend [])
      (reported : List Report) : Phase consumer dubbo ⟨{}, true, some backend, false, 1, 0, [true], reported⟩
  | serving (frontend backend : SocketPipeline) (opened : frontend.isOpen = true) (responses : Carries frontend dubbo)
      (requests : Carries backend consumer) (reported : List Report) :
      Phase consumer dubbo ⟨frontend, true, some backend, true, 1, 0, [], reported⟩
  | closed (frontend backend : SocketPipeline) (shut : frontend.isOpen = false ∧ frontend.readCallback = false)
      (silent : backend.readCallback = false) (responses : Carries frontend dubbo) (requests : Carries backend consumer)
      (reported : List Report) : Phase consumer dubbo ⟨frontend, true, some backend, true, 1, 0, [], reported⟩

section
variable {consumer dubbo : List UInt8} {s s' : ProxyConnection}

theorem init_phase {throws : Bool} (phase : Phase consumer dubbo s) (taken : s.init throws = .ok s') :
    Phase consumer dubbo s' := by
  cases phase with
  | accepted none =>
      cases throws with
      | true =>
          cases taken
          exact .failed none _
      | false =>
          cases taken
          exact .connecting none _
  | connecting | failing | failed | connected | serving | closed => cases taken

theorem connectSuccess_phase (phase : Phase consumer dubbo s) (taken : s.connectSuccess = .ok s') :
    Phase consumer dubbo s' := by
  cases phase with
  | connecting none reported =>
      cases taken
      exact .connected none _ ⟨rfl, rfl, rfl⟩ reported
  | accepted | failing | failed | connected | serving | closed => cases taken

theorem connectErr_phase (phase : Phase consumer dubbo s) (taken : s.connectErr = .ok s') :
    Phase consumer dubbo s' := by
  cases phase with
  | connecting none reported =>
      cases taken
      exact .failing none reported
  | accepted | failing | failed | connected | serving | closed => cases taken

theorem runPosted_phase (phase : Phase consumer dubbo s) (taken : s.runPosted = .ok s') : Phase consumer dubbo s' := by
  cases phase with
  | failing none reported =>
      cases taken
      exact .failed none _
  | connected none backend carries reported =>
      cases taken
      obtain ⟨rfl, rfl⟩ := none
      exact .serving ({} : SocketPipeline).transportActive backend rfl ⟨rfl, rfl, rfl⟩ carries reported
  | accepted | connecting | failed | serving | closed => cases taken

theorem Carries.write {p : SocketPipeline} {bytes : List UInt8} (carries : Carries p bytes) (buf : List UInt8) :
    p.write buf = .ok { p with written := p.written ++ buf } ∧
      Carries { p with written := p.written ++ buf } (bytes ++ buf) := by
  constructor
  · rw [SocketPipeline.write, if_pos carries.transport]
  · exact ⟨carries.transport, carries.emptied, congrArg (· ++ buf) carries.written⟩

theorem Carries.close {p : SocketPipeline} {bytes : List UInt8} (carries : Carries p bytes) :
    p.close = .ok p.shutdown ∧ Carries p.shutdown bytes := by
  constructor
  · rw [SocketPipeline.close, if_pos carries.transport]
  · exact ⟨carries.transport, carries.emptied, carries.written⟩

theorem Carries.detach {p : SocketPipeline} {bytes : List UInt8} (carries : Carries p bytes) :
    Carries p.detachReadCallback bytes :=
  ⟨carries.transport, carries.emptied, carries.written⟩

theorem Phase.report (phase : Phase consumer dubbo s) (known : s.initialised = true) (e : Report) :
    Phase consumer dubbo (s.report e) := by
  cases phase with
  | accepted => cases known
  | connecting none reported => exact .connecting none _
  | failing none reported => exact .failing none _
  | failed none reported => exact .failed none _
  | connected none backend carries reported => exact .connected none backend carries _
  | serving frontend backend opened responses requests reported => exact .serving frontend backend opened responses requests _
  | closed frontend backend shut silent responses requests reported =>
      exact .closed frontend backend shut silent responses requests _

theorem Phase.detach_backend (phase : Phase consumer dubbo s) {backend : SocketPipeline} (found : s.backend = some backend)
    (e : Report) : Phase consumer dubbo ({ s with backend := some backend.detachReadCallback }.report e) := by
  cases phase with
  | connected none backend carries reported =>
      cases found
      exact .connected none _ carries.detach _
  | serving frontend backend opened responses requests reported =>
      cases found
      exact .serving frontend _ opened responses requests.detach _
  | closed frontend backend shut silent responses requests reported =>
      cases found
      exact .closed frontend _ shut rfl responses requests.detach _
  | accepted | connecting | failing | failed => cases found

theorem Phase.serving_of_attached (phase : Phase consumer dubbo s) (attached : s.frontend.readCallback = true) :
    ∃ frontend backend reported, s = ⟨frontend, true, some backend, true, 1, 0, [], reported⟩ ∧
      frontend.isOpen = true ∧ Carries frontend dubbo ∧ Carries backend consumer := by
  cases phase with
  | serving frontend backend opened responses requests reported =>
      exact ⟨frontend, backend, reported, rfl, opened, responses, requests⟩
  | closed frontend backend shut => cases shut.2.symm.trans attached
  | accepted | connecting | failing | failed | connected => cases attached

theorem Phase.detach_frontend (phase : Phase consumer dubbo s) (attached : s.frontend.readCallback = true) (e : Report) :
    Phase consumer dubbo ({ s with frontend := s.frontend.detachReadCallback }.report e) := by
  obtain ⟨frontend, backend, reported, rfl, opened, responses, requests⟩ := phase.serving_of_attached attached
  exact .serving frontend.detachReadCallback backend opened responses.detach requests _

theorem read_frontend_phase {bytes : List UInt8} (phase : Phase consumer dubbo s)
    (taken : s.read bytes .frontend = .ok s') : Phase (consumer ++ bytes) dubbo s' := by
  rw [ProxyConnection.read] at taken
  split at taken
  · rename_i attached
    obtain ⟨frontend, backend, reported, rfl, opened, responses, requests⟩ := phase.serving_of_attached attached
    obtain ⟨write, requests⟩ := requests.write bytes
    have same : frontend.bufQueue ++ bytes = bytes := by rw [responses.emptied, List.nil_append]
    simp only [getBackend, same, write, bind, Except.bind, pure, Except.pure] at taken
    cases taken
    exact .serving { frontend with bufQueue := [] } _ opened ⟨responses.transport, rfl, responses.written⟩ requests reported
  · cases taken

theorem read_backend_phase {bytes : List UInt8} (phase : Phase consumer dubbo s)
    (taken : s.read bytes .backend = .ok s') : Phase consumer (dubbo ++ bytes) s' := by
  rw [ProxyConnection.read] at taken
  split at taken
  · cases taken
  · rename_i backend found
    split at taken
    · rename_i attached
      cases phase with
      | connected none backend carries reported => cases taken
      | serving frontend backend opened responses requests reported =>
          cases found
          obtain ⟨write, responses⟩ := responses.write bytes
          have same : backend.bufQueue ++ bytes = bytes := by rw [requests.emptied, List.nil_append]
          simp only [same, write, bind, Except.bind, pure, Except.pure] at taken
          cases taken
          exact .serving { frontend with written := frontend.written ++ bytes } { backend with bufQueue := [] } opened
            responses ⟨requests.transport, rfl, requests.written⟩ reported
      | closed frontend backend shut silent responses requests reported =>
          cases found
          rw [silent] at attached
          cases attached
      | accepted | connecting | failing | failed => cases found
    · cases taken

theorem readEOF_phase {side : Side} (phase : Phase consumer dubbo s) (taken : s.readEOF side = .ok s') :
    Phase consumer dubbo s' := by
  cases side with
  | frontend =>
      rw [ProxyConnection.readEOF] at taken
      split at taken
      · rename_i attached
        obtain ⟨frontend, backend, reported, rfl, opened, responses, requests⟩ := phase.serving_of_attached attached
        obtain ⟨close, responses⟩ := responses.detach.close
        obtain ⟨close', requests⟩ := requests.close
        simp only [getBackend, close, close', bind, Except.bind, pure, Except.pure] at taken
        cases taken
        exact .closed _ _ ⟨rfl, rfl⟩ rfl responses requests reported
      · cases taken
  | backend =>
      rw [ProxyConnection.readEOF] at taken
      split at taken
      · cases taken
      · rename_i backend found
        split at taken
        · cases taken
          exact phase.detach_backend found _
        · cases taken

theorem readErr_phase {side : Side} (phase : Phase consumer dubbo s) (taken : s.readErr side = .ok s') :
    Phase consumer dubbo s' := by
  cases side with
  | frontend =>
      rw [ProxyConnection.readErr] at taken
      split at taken
      · rename_i attached
        cases taken
        exact phase.detach_frontend attached _
      · cases taken
  | backend =>
      rw [ProxyConnection.readErr] at taken
      split at taken
      · cases taken
      · rename_i backend found
        split at taken
        · cases taken
          exact phase.detach_backend found _
        · cases taken

theorem readException_phase (phase : Phase consumer dubbo s) (taken : s.readException = .ok s') :
    Phase consumer dubbo s' := by
  rw [readException] at taken
  split at taken
  · rename_i present
    cases taken
    exact phase.report (Bool.and_eq_true_iff.mp present).1 _
  · cases taken

theorem step_phase {op : Op} (phase : Phase consumer dubbo s) (taken : s.step op = .ok s') :
    Phase (consumer ++ received .frontend op) (dubbo ++ received .backend op) s' := by
  cases op with
  | read side bytes =>
      cases side with
      | frontend =>
          rw [received, if_pos rfl, received, if_neg nofun, List.append_nil]
          exact read_frontend_phase phase taken
      | backend =>
          rw [received, if_neg nofun, List.append_nil, received, if_pos rfl]
          exact read_backend_phase phase taken
  | init throws => simpa [received] using init_phase phase taken
  | connectSuccess => simpa [received] using connectSuccess_phase phase taken
  | connectErr => simpa [received] using connectErr_phase phase taken
  | runPosted => simpa [received] using runPosted_phase phase taken
  | readEOF side => simpa [received] using readEOF_phase phase taken
  | readErr side => simpa [received] using readErr_phase phase taken
  | timeoutExpired => simpa [received] using readException_phase phase taken
  | dropConnection => simpa [received] using readException_phase phase taken

theorem run_phase {ops : List Op} (done : run {} ops = .ok s) : Phase (stream .frontend ops) (stream .backend ops) s := by
  have start : Phase (stream .frontend []) (stream .backend []) {} := .accepted ⟨rfl, rfl⟩
  refine run_history (I := fun past s => Phase (stream .frontend past) (stream .backend past) s) ?_ start
    (along_true _ ops) done
  intro past s op s' phase _ taken
  rw [stream_concat, stream_concat]
  exact step_phase phase taken

/-! ## What a step can get stuck with -/

/-- The event cannot come, or it is data from dubbo that comes before the continuation. -/
def Excused (s : ProxyConnection) (op : Op) (e : ProxyStuck) : Prop :=
  e = .notCalled ∨ e = .noTransport ∧ s.backendPipeline = false ∧ ∃ bytes, op = .read .backend bytes

theorem read_stuck {side : Side} {bytes : List UInt8} {e : ProxyStuck} (phase : Phase consumer dubbo s)
    (stuck : s.read bytes side = .error e) : Excused s (.read side bytes) e := by
  cases side with
  | frontend =>
      rw [ProxyConnection.read] at stuck
      split at stuck
      · rename_i attached
        obtain ⟨frontend, backend, reported, rfl, opened, responses, requests⟩ := phase.serving_of_attached attached
        simp only [getBackend, (requests.write _).1, bind, Except.bind, pure, Except.pure] at stuck
        cases stuck
      · cases stuck
        exact .inl rfl
  | backend =>
      rw [ProxyConnection.read] at stuck
      split at stuck
      · cases stuck
        exact .inl rfl
      · split at stuck
        · cases phase with
          | connected none backend carries reported =>
              cases stuck
              exact .inr ⟨rfl, rfl, bytes, rfl⟩
          | serving frontend backend opened responses requests reported =>
              simp only [(responses.write _).1, bind, Except.bind, pure, Except.pure] at stuck
              cases stuck
          | closed frontend backend shut silent responses requests reported =>
              simp only [(responses.write _).1, bind, Except.bind, pure, Except.pure] at stuck
              cases stuck
          | accepted | connecting | failing | failed => contradiction
        · cases stuck
          exact .inl rfl

theorem readEOF_stuck {side : Side} {e : ProxyStuck} (phase : Phase consumer dubbo s)
    (stuck : s.readEOF side = .error e) : e = .notCalled := by
  cases side with
  | frontend =>
      rw [ProxyConnection.readEOF] at stuck
      split at stuck
      · rename_i attached
        obtain ⟨frontend, backend, reported, rfl, opened, responses, requests⟩ := phase.serving_of_attached attached
        simp only [getBackend, requests.close.1, responses.detach.close.1, bind, Except.bind, pure, Except.pure] at stuck
        cases stuck
      · cases stuck
        rfl
  | backend =>
      rw [ProxyConnection.readEOF] at stuck
      split at stuck
      · cases stuck
        rfl
      · split at stuck
        · cases stuck
        · cases stuck
          rfl

theorem readErr_stuck {side : Side} {e : ProxyStuck} (stuck : s.readErr side = .error e) : e = .notCalled := by
  cases side with
  | frontend =>
      rw [ProxyConnection.readErr] at stuck
      split at stuck
      · cases stuck
      · cases stuck
        rfl
  | backend =>
      rw [ProxyConnection.readErr] at stuck
      split at stuck
      · cases stuck
        rfl
      · split at stuck
        · cases stuck
        · cases stuck
          rfl

theorem runPosted_stuck {e : ProxyStuck} (phase : Phase consumer dubbo s) (stuck : s.runPosted = .error e) :
    e = .notCalled := by
  cases phase with
  | failing | connected => cases stuck
  | accepted | connecting | failed | serving | closed =>
      cases stuck
      rfl

theorem step_stuck {op : Op} {e : ProxyStuck} (phase : Phase consumer dubbo s) (stuck : s.step op = .error e) :
    Excused s op e := by
  cases op with
  | init throws =>
      simp only [step, ProxyConnection.init] at stuck
      split at stuck
      · cases stuck
        exact .inl rfl
      · cases stuck
  | connectSuccess =>
      simp only [step, ProxyConnection.connectSuccess] at stuck
      split at stuck
      · cases stuck
        exact .inl rfl
      · split at stuck <;> cases stuck
  | connectErr =>
      simp only [step, ProxyConnection.connectErr] at stuck
      split at stuck
      · cases stuck
        exact .inl rfl
      · cases stuck
  | runPosted => exact .inl (runPosted_stuck phase stuck)
  | read side bytes => exact read_stuck phase stuck
  | readEOF side => exact .inl (readEOF_stuck phase stuck)
  | readErr side => exact .inl (readErr_stuck stuck)
  | timeoutExpired | dropConnection =>
      simp only [step, ProxyConnection.readException] at stuck
      split at stuck
      · cases stuck
      · cases stuck
        exact .inl rfl

/-! ## Forwarding -/

theorem step_backend_none {op : Op} (phase : Phase consumer dubbo s) (taken : s.step op = .ok s')
    (other : op ≠ .connectSuccess) (absent : s.backend = none) : s'.backend = none := by
  cases phase with
  | connected | serving | closed => cases absent
  | accepted =>
      cases op with
      | init throws => cases throws <;> cases taken <;> rfl
      | connectSuccess => exact absurd rfl other
      | read side | readEOF side | readErr side => cases side <;> cases taken
      | connectErr | runPosted | timeoutExpired | dropConnection => cases taken
  | connecting | failing | failed =>
      cases op with
      | connectSuccess => exact absurd rfl other
      | read side | readEOF side | readErr side => cases side <;> cases taken
      | init | connectErr | runPosted | timeoutExpired | dropConnection => cases taken <;> rfl

theorem run_connected {ops : List Op} (done : run {} ops = .ok s) (connected : s.backend ≠ none) :
    .connectSuccess ∈ ops := by
  have start : (∃ consumer dubbo, Phase consumer dubbo {}) ∧
      (({} : ProxyConnection).backend ≠ none → .connectSuccess ∈ ([] : List Op)) :=
    ⟨⟨[], [], .accepted ⟨rfl, rfl⟩⟩, fun present => absurd rfl present⟩
  refine (run_history (I := fun past s => (∃ consumer dubbo, Phase consumer dubbo s) ∧
    (s.backend ≠ none → .connectSuccess ∈ past)) ?_ start (along_true _ ops) done).2 connected
  rintro past s op s' ⟨⟨consumer, dubbo, phase⟩, before⟩ _ taken
  refine ⟨⟨_, _, step_phase phase taken⟩, fun present => ?_⟩
  by_cases now : op = .connectSuccess
  · rw [now]
    exact List.mem_append_right _ (List.mem_singleton_self _)
  · refine List.mem_append_left _ (before fun absent => present ?_)
    exact step_backend_none phase taken now absent

structure Faithful (ops : List Op) (s : ProxyConnection) : Prop where
  connects : s.connects ≤ 1
  connected : s.backendPipeline = true → .connectSuccess ∈ ops
  requests : s.backend.elim [] SocketPipeline.written = stream .frontend ops
  responses : s.frontend.written = stream .backend ops

theorem Phase.backend_some (phase : Phase consumer dubbo s) (pointer : s.backendPipeline = true) : s.backend ≠ none := by
  cases phase with
  | serving | closed => exact nofun
  | accepted | connecting | failing | failed | connected => cases pointer

theorem Phase.forwards (phase : Phase consumer dubbo s) :
    s.connects ≤ 1 ∧ s.backend.elim [] SocketPipeline.written = consumer ∧ s.frontend.written = dubbo := by
  cases phase with
  | accepted none => exact ⟨Nat.zero_le 1, none.1.symm, none.2.symm⟩
  | connecting none | failing none | failed none => exact ⟨Nat.le_refl 1, none.1.symm, none.2.symm⟩
  | connected none backend carries => exact ⟨Nat.le_refl 1, carries.written.trans none.1.symm, none.2.symm⟩
  | serving frontend backend opened responses requests => exact ⟨Nat.le_refl 1, requests.written, responses.written⟩
  | closed frontend backend shut silent responses requests => exact ⟨Nat.le_refl 1, requests.written, responses.written⟩

theorem run_stuck {P : ProxyConnection → Op → Prop} {e : ProxyStuck} {ops : List Op} (along : Along step P {} ops)
    (unexcused : ∀ s op, P s op → ¬ Excused s op e) : run {} ops ≠ .error e := by
  refine run_ne_error (I := fun s => ∃ consumer dubbo, Phase consumer dubbo s) ?_ ?_ ⟨[], [], .accepted ⟨rfl, rfl⟩⟩ along
  · rintro s op s' ⟨consumer, dubbo, phase⟩ _ taken
    exact ⟨_, _, step_phase phase taken⟩
  · rintro s op ⟨consumer, dubbo, phase⟩ permitted stuck
    exact unexcused s op permitted (step_stuck phase stuck)

theorem run_faithful (ops : List Op) :
    run {} ops ≠ .error .nullBackend ∧ ∀ s, run {} ops = .ok s → Faithful ops s := by
  constructor
  · refine run_stuck (along_true _ ops) ?_
    rintro s op _ (other | ⟨other, _⟩) <;> cases other
  · intro s done
    have phase := run_phase done
    obtain ⟨connects, requests, responses⟩ := phase.forwards
    exact ⟨connects, fun pointer => run_connected done (phase.backend_some pointer), requests, responses⟩

def Resumed (s : ProxyConnection) : Op → Prop
  | .read .backend _ => s.backendPipeline = true
  | _ => True

theorem run_ne_noTransport (ops : List Op) (resumed : Along step Resumed {} ops) : run {} ops ≠ .error .noTransport := by
  refine run_stuck resumed ?_
  rintro s op permitted (other | ⟨_, paused, bytes, rfl⟩)
  · cases other
  · have pointer : s.backendPipeline = true := permitted
    rw [paused] at pointer
    cases pointer

end

instance (s : ProxyConnection) (op : Op) : Decidable (Resumed s op) := by
  unfold Resumed
  split <;> infer_instance

def exchange : List Op :=
  [.init false, .connectSuccess, .runPosted, .read .frontend [1, 2], .read .backend [7], .read .frontend [3], .readEOF .frontend]

theorem exchange_ne_noTransport : (∃ s, run {} exchange = .ok s ∧ s.frontend.isOpen = false) ∧
    run {} exchange ≠ .error .noTransport :=
  ⟨Ends.exists_ok (by decide +kernel), run_ne_noTransport exchange (by decide +kernel)⟩

/-- The backend pipeline reads as soon as it is connected, and the frontend pipeline is still paused. -/
theorem early_data_noTransport : run {} [.init false, .connectSuccess, .read .backend [7]] = .error .noTransport :=
  rfl

end Wangle.Proof.Proxy
