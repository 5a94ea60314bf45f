import Wangle.Acceptor.SecurityProtocolContextManager
import Mathlib.Data.List.Basic
import Mathlib.Order.Lattice

/-!
# Peeking
-/

namespace Wangle.Proof.Acceptor
open Wangle.Acceptor Wangle.Transition PeekedConnection

variable {peekers : List PeekingCallback} {stream : List UInt8} {sock : AsyncSSLSocket} {x x' : PeekedConnection}

/-! ## The peekers -/

def required (peekers : List PeekingCallback) : Nat := (peekers.map PeekingCallback.bytesRequired).foldr max 0

theorem le_required {p : PeekingCallback} (member : p ∈ peekers) : p.bytesRequired ≤ required peekers := by
  induction peekers with
  | nil => cases member
  | cons q peekers ih =>
      rw [required, List.map_cons, List.foldr_cons]
      rcases List.mem_cons.mp member with rfl | member
      · exact le_max_left _ _
      · exact (ih member).trans (le_max_right _ _)

def asked (bytes : List UInt8) (peekers : List PeekingCallback) : Nat :=
  min (peekers.findIdx (fun p => (p.helperFor bytes).isSome) + 1) peekers.length

def chosen (bytes : List UInt8) (peekers : List PeekingCallback) : Option HelperKind :=
  peekers.findSome? (·.helperFor bytes)

theorem consult_eq {bytes : List UInt8} (enough : ∀ p ∈ peekers, p.bytesRequired ≤ bytes.length) :
    consult bytes peekers = .ok (List.replicate (asked bytes peekers) bytes, chosen bytes peekers) := by
  induction peekers with
  | nil => rfl
  | cons p peekers ih =>
      obtain ⟨helper, got⟩ := p.checked bytes (enough p List.mem_cons_self)
      have rest := ih fun q member => enough q (List.mem_cons_of_mem _ member)
      cases helper with
      | some kind => simp [consult, got, asked, chosen, PeekingCallback.helperFor, List.findIdx_cons]
      | none =>
          have more : asked bytes (p :: peekers) = asked bytes peekers + 1 := by
            simp [asked, PeekingCallback.helperFor, got, List.findIdx_cons]
          have same : chosen bytes (p :: peekers) = chosen bytes peekers := by
            simp [chosen, PeekingCallback.helperFor, got]
          simp only [consult, got, rest, more, same, List.replicate_succ]

/-! ## The outcome -/

def verdict (peekers : List PeekingCallback) (stream : List UInt8) : PeekOutcome :=
  match chosen (stream.take (required peekers)) peekers with
  | some helper => .started helper stream
  | none => .connectionError (.asyncSocket .corruptedData "Unrecognized protocol")

/-- The peekers have been asked about the first bytes of the stream, and the first that accepts them has the
connection. -/
structure Decided (peekers : List PeekingCallback) (stream : List UInt8) (x : PeekedConnection) : Prop where
  arrived : (stream.take (required peekers)).length = required peekers
  consulted : x.consulted =
    List.replicate (asked (stream.take (required peekers)) peekers) (stream.take (required peekers))
  outcomes : x.outcomes = [verdict peekers stream]

structure Failed (x : PeekedConnection) : Prop where
  consulted : x.consulted = []
  outcomes : ∃ ex, x.outcomes = [.connectionError ex]

inductive Over (x : PeekedConnection) : Prop
  | started (socket : x.helper.socket = none) (helper : x.helper.helper.isSome = true)
  | failed (sock : AsyncSSLSocket) (socket : x.helper.socket = some sock) (quiet : sock.readCallback = false)
      (helper : x.helper.helper = none)

theorem Over.step (over' : Over x) (op : PeekOp) : x.step op = .error .ignored ∨ x.step op = .ok x := by
  cases over' with
  | started socket helper =>
      left
      cases op with
      | read len => simp [PeekedConnection.step, PeekedConnection.read, socket]
      | eof => simp [PeekedConnection.step, PeekingAcceptorHandshakeHelper.event, socket, told]
      | error what => simp [PeekedConnection.step, PeekingAcceptorHandshakeHelper.event, socket, told]
      | dropConnection reason => simp [PeekedConnection.step, dropConnection, helper]
  | failed sock socket quiet helper =>
      cases op with
      | read len =>
          left
          cases peeker : x.helper.peeker <;> simp [PeekedConnection.step, PeekedConnection.read, socket, peeker, quiet]
      | eof =>
          left
          cases peeker : x.helper.peeker <;>
            simp [PeekedConnection.step, PeekingAcceptorHandshakeHelper.event, socket, peeker, quiet, told]
      | error what =>
          left
          cases peeker : x.helper.peeker <;>
            simp [PeekedConnection.step, PeekingAcceptorHandshakeHelper.event, socket, peeker, quiet, told]
      | dropConnection reason =>
          right
          simp [PeekedConnection.step, dropConnection, helper, PeekingAcceptorHandshakeHelper.dropConnection, socket,
            quiet, told, errorOf]

theorem peekSuccess_decides {p : PeekingAcceptorHandshakeHelper} (peeks : x.peekingCallbacks = peekers)
    (callbacks : p.peekCallbacks = peekers.map PeekingCallback.helperFor) (callback : p.callback = true)
    (socket : p.socket = some sock) (quiet : sock.readCallback = false) (helper : p.helper = none)
    (arrived : (stream.take (required peekers)).length = required peekers) (unasked : x.consulted = [])
    (open' : x.outcomes = []) (whole : sock.preReceivedData ++ x.unread = stream) :
    ∃ x', x.peekSuccess (stream.take (required peekers)) p = .ok x' ∧ Decided peekers stream x' ∧ Over x' := by
  have checked : ∀ q ∈ peekers, q.bytesRequired ≤ (stream.take (required peekers)).length := by
    rw [arrived]
    exact fun q member => le_required member
  have found : p.peekCallbacks.findSome? (· (stream.take (required peekers))) =
      chosen (stream.take (required peekers)) peekers := by
    rw [callbacks, List.findSome?_map]
    rfl
  cases kind : chosen (stream.take (required peekers)) peekers with
  | none =>
      rw [kind] at found
      have failed : p.peekSuccess (stream.take (required peekers)) =
          .ok ({ p with peeker := none, callback := false },
            some (.connectionError (.asyncSocket .corruptedData "Unrecognized protocol") none)) := by
        simp [PeekingAcceptorHandshakeHelper.peekSuccess, found, PeekingAcceptorHandshakeHelper.peekError, callback]
      refine ⟨_, by rw [peekSuccess, peeks, consult_eq checked]; dsimp only; rw [failed], ⟨arrived, ?_, ?_⟩, ?_⟩
      · simp [unasked]
      · simp [open', kind, outcomesOf, errorOf, verdict]
      · exact .failed sock socket quiet helper
  | some kind' =>
      rw [kind] at found
      obtain ⟨chosenHelper, report, started⟩ : ∃ chosenHelper report,
        ChosenHelper.start sock kind' = (chosenHelper, report) := ⟨_, _, rfl⟩
      have given : p.peekSuccess (stream.take (required peekers)) =
          .ok ({ p with peeker := none, callback := false, socket := none, helper := some chosenHelper }, report) := by
        simp [PeekingAcceptorHandshakeHelper.peekSuccess, found, socket, started, callback]
      refine ⟨_, by rw [peekSuccess, peeks, consult_eq checked]; dsimp only; rw [given], ⟨arrived, ?_, ?_⟩, ?_⟩
      · simp [unasked]
      · simp [open', kind, outcomesOf, socket, whole, verdict]
      · exact .started rfl rfl

/-! ## Waiting for bytes -/

def waiting (peekers : List PeekingCallback) (sock : AsyncSSLSocket) (stream : List UInt8) (got : Nat) : PeekedConnection where
  peekingCallbacks := peekers
  helper := {
    peekCallbacks := peekers.map PeekingCallback.helperFor
    numBytes := required peekers
    socket := some { sock with readCallback := true }
    peeker := some ⟨true, got, stream.take got ++ List.replicate (required peekers - got) 0⟩
    callback := true }
  unread := stream.drop got

theorem fill_take {got len : Nat} (more : got + len ≤ required peekers) (there : got + len ≤ stream.length) :
    SocketPeeker.fill ((stream.drop got).take len) ⟨true, got, stream.take got ++ List.replicate (required peekers - got) 0⟩ =
      ⟨true, got + len, stream.take (got + len) ++ List.replicate (required peekers - (got + len)) 0⟩ := by
  have size : ((stream.drop got).take len).length = len := by
    rw [List.length_take, List.length_drop]
    omega
  have front : (stream.take got).length = got := List.length_take_of_le (by omega)
  have left : (stream.take got ++ List.replicate (required peekers - got) (0 : UInt8)).drop (got + len) =
      List.replicate (required peekers - (got + len)) 0 := by
    rw [List.drop_append, front, List.drop_eq_nil_of_le (by omega), List.nil_append, List.drop_replicate]
    congr 1
    omega
  have kept : (stream.take got ++ List.replicate (required peekers - got) (0 : UInt8)).take got = stream.take got := by
    rw [List.take_append_of_le_length (by omega), List.take_of_length_le (by omega)]
  simp only [SocketPeeker.fill, size, left, kept, List.take_add]

section waiting
variable {got : Nat} (short : got < required peekers) (begun : got ≤ stream.length)
include short begun

variable (sock) in
theorem waiting_read_eq (len : Nat) :
    (waiting peekers sock stream got).read len =
      if 0 < len ∧ got + len ≤ stream.length ∧ got + len ≤ required peekers then
        readDataAvailable { sock with readCallback := true }
          ⟨true, got + len, stream.take (got + len) ++ List.replicate (required peekers - (got + len)) 0⟩
          { waiting peekers sock stream got with unread := stream.drop (got + len) }
      else .error .ignored := by
  have size : (stream.take got ++ List.replicate (required peekers - got) (0 : UInt8)).length = required peekers := by
    rw [List.length_append, List.length_take_of_le begun, List.length_replicate]
    omega
  have offered : SocketPeeker.getReadBuffer ⟨true, got, stream.take got ++ List.replicate (required peekers - got) 0⟩ =
      .ok (required peekers - got) := by
    simp only [SocketPeeker.getReadBuffer, size, if_pos short]
  have rest : (stream.drop got).length = stream.length - got := List.length_drop
  by_cases possible : 0 < len ∧ got + len ≤ stream.length ∧ got + len ≤ required peekers
  · obtain ⟨some, there, fits⟩ := possible
    have reads : 0 < len ∧ len ≤ (stream.drop got).length := ⟨some, by omega⟩
    have inBuffer : len ≤ required peekers - got := by omega
    simp only [PeekedConnection.read, waiting, true_and, if_pos reads, offered, if_pos inBuffer,
      fill_take fits there, List.drop_drop, if_pos (And.intro some (And.intro there fits))]
  · rw [if_neg possible]
    by_cases reads : 0 < len ∧ len ≤ (stream.drop got).length
    · have tooLong : ¬ len ≤ required peekers - got := by omega
      simp only [PeekedConnection.read, waiting, true_and, if_pos reads, offered, if_neg tooLong]
    · simp only [PeekedConnection.read, waiting, true_and, if_neg reads]

variable (sock) in
theorem waiting_read (len : Nat) :
    (waiting peekers sock stream got).read len = .error .ignored ∨ got + len ≤ stream.length ∧
      (got + len < required peekers ∧
          (waiting peekers sock stream got).read len = .ok (waiting peekers sock stream (got + len)) ∨
        got + len = required peekers ∧
          ∃ x, (waiting peekers sock stream got).read len = .ok x ∧ Decided peekers stream x ∧ Over x) := by
  have read := waiting_read_eq sock short begun len
  split at read
  swap
  · exact .inl read
  rename_i possible
  obtain ⟨some, there, fits⟩ := possible
  have size : (stream.take (got + len) ++ List.replicate (required peekers - (got + len)) (0 : UInt8)).length =
      required peekers := by
    rw [List.length_append, List.length_take_of_le there, List.length_replicate]
    omega
  rw [read]
  refine .inr ⟨there, ?_⟩
  rcases Nat.lt_or_eq_of_le fits with less | full
  · refine .inl ⟨less, ?_⟩
    simp only [readDataAvailable, size, if_neg (Nat.not_lt.mpr fits), if_neg (Nat.ne_of_lt less)]
    rfl
  · refine .inr ⟨full, ?_⟩
    rw [full] at there ⊢
    simp only [readDataAvailable, Nat.sub_self, List.replicate_zero, List.append_nil, List.length_take_of_le there,
      Nat.lt_irrefl, if_false, if_true]
    exact peekSuccess_decides rfl rfl rfl rfl rfl rfl (List.length_take_of_le there) rfl rfl (List.take_append_drop _ _)

end waiting

variable (peekers stream sock) in
theorem waiting_fails (got : Nat) (op : PeekOp) (other : ∀ len, op ≠ .read len) :
    ∃ x, (waiting peekers sock stream got).step op = .ok x ∧ Failed x ∧ Over x := by
  cases op with
  | read len => exact absurd rfl (other len)
  | eof => exact ⟨_, rfl, ⟨rfl, _, rfl⟩, .failed _ rfl rfl rfl⟩
  | error what => exact ⟨_, rfl, ⟨rfl, _, rfl⟩, .failed _ rfl rfl rfl⟩
  | dropConnection reason => exact ⟨_, rfl, ⟨rfl, _, rfl⟩, .failed _ rfl rfl rfl⟩

/-! ## Whole connections -/

def arrived : List PeekOp → Nat
  | .read len :: ops => len + arrived ops
  | _ => 0

def Broken (ops : List PeekOp) : Prop := ∃ op ∈ ops, ∀ len, op ≠ .read len

theorem arrived_append_of_broken {ops : List PeekOp} (broken : Broken ops) (more : List PeekOp) :
    arrived (ops ++ more) = arrived ops := by
  induction ops with
  | nil =>
      obtain ⟨op, member, -⟩ := broken
      cases member
  | cons op ops ih =>
      cases op with
      | read len =>
          obtain ⟨other, member, notRead⟩ := broken
          have later : Broken ops := by
            rcases List.mem_cons.mp member with rfl | member
            · exact absurd rfl (notRead len)
            · exact ⟨other, member, notRead⟩
          rw [List.cons_append, arrived, arrived, ih later]
      | _ => rfl

theorem arrived_append {ops : List PeekOp} (reads : ¬ Broken ops) (more : List PeekOp) :
    arrived (ops ++ more) = arrived ops + arrived more := by
  induction ops with
  | nil => simp [arrived]
  | cons op ops ih =>
      cases op with
      | read len =>
          have later : ¬ Broken ops := fun ⟨other, member, notRead⟩ => reads ⟨other, List.mem_cons_of_mem _ member, notRead⟩
          rw [List.cons_append, arrived, arrived, ih later, Nat.add_assoc]
      | _ => exact absurd ⟨_, List.mem_cons_self, by simp⟩ reads

theorem broken_append {ops more : List PeekOp} : Broken (ops ++ more) ↔ Broken ops ∨ Broken more := by
  simp only [Broken, List.mem_append, or_and_right, exists_or]

theorem not_broken_read (len : Nat) : ¬ Broken [.read len] := by
  rintro ⟨op, member, other⟩
  exact other len (List.mem_singleton.mp member)

inductive PeekPhase (peekers : List PeekingCallback) (sock : AsyncSSLSocket) (stream : List UInt8) (ops : List PeekOp) :
    PeekedConnection → Prop
  | waits (reads : ¬ Broken ops) (short : arrived ops < required peekers) (begun : arrived ops ≤ stream.length) :
      PeekPhase peekers sock stream ops (waiting peekers sock stream (arrived ops))
  | decided {x : PeekedConnection} (enough : required peekers ≤ arrived ops) (decided : Decided peekers stream x) (ended : Over x) :
      PeekPhase peekers sock stream ops x
  | failed {x : PeekedConnection} (broken : Broken ops) (short : arrived ops < required peekers) (failed : Failed x) (ended : Over x) :
      PeekPhase peekers sock stream ops x

theorem PeekPhase.stays {ops : List PeekOp} (phase : PeekPhase peekers sock stream ops x) (ended : Over x) (op : PeekOp) :
    PeekPhase peekers sock stream (ops ++ [op]) x := by
  cases phase with
  | waits => cases ended with
      | started socket => cases socket
      | failed sock socket quiet => cases socket; cases quiet
  | decided enough decided =>
      refine .decided (enough.trans ?_) decided ended
      by_cases broken : Broken ops
      · rw [arrived_append_of_broken broken]
      · rw [arrived_append broken]
        exact Nat.le_add_right _ _
  | failed broken short failed =>
      refine .failed (broken_append.mpr (.inl broken)) ?_ failed ended
      rwa [arrived_append_of_broken broken]

theorem PeekPhase.step {ops : List PeekOp} (phase : PeekPhase peekers sock stream ops x) (op : PeekOp) :
    x.step op = .error .ignored ∨ ∃ x', x.step op = .ok x' ∧ PeekPhase peekers sock stream (ops ++ [op]) x' := by
  have same (ended : Over x) : x.step op = .error .ignored ∨ ∃ x', x.step op = .ok x' ∧
      PeekPhase peekers sock stream (ops ++ [op]) x' :=
    (ended.step op).imp_right fun taken => ⟨x, taken, phase.stays ended op⟩
  cases phase with
  | waits reads short begun =>
      by_cases isRead : ∃ len, op = .read len
      · obtain ⟨len, rfl⟩ := isRead
        have total : arrived (ops ++ [.read len]) = arrived ops + len := arrived_append reads _
        have goesOn : ¬ Broken (ops ++ [.read len]) := by
          rw [broken_append]
          exact not_or.mpr ⟨reads, not_broken_read len⟩
        rcases waiting_read sock short begun len with ignored | ⟨there, ⟨less, taken⟩ | ⟨full, x', taken, decided, ended⟩⟩
        · exact .inl ignored
        · refine .inr ⟨_, taken, ?_⟩
          rw [← total] at less there ⊢
          exact .waits goesOn less there
        · exact .inr ⟨x', taken, .decided (by rw [total, full]) decided ended⟩
      · have other : ∀ len, op ≠ .read len := fun len same => isRead ⟨len, same⟩
        obtain ⟨x', taken, failed, ended⟩ := waiting_fails peekers stream sock (arrived ops) op other
        have still : arrived (ops ++ [op]) = arrived ops := by
          rw [arrived_append reads]
          cases op with
          | read len => exact absurd rfl (other len)
          | _ => rfl
        refine .inr ⟨x', taken, .failed (broken_append.mpr (.inr ⟨op, List.mem_singleton_self op, other⟩)) ?_ failed ended⟩
        rwa [still]
  | decided enough decided ended => exact same ended
  | failed broken short failed ended => exact same ended

structure Peeked (peekers : List PeekingCallback) (stream : List UInt8) (ops : List PeekOp) (x : PeekedConnection) :
    Prop where
  decided : required peekers ≤ arrived ops → Decided peekers stream x
  failed : arrived ops < required peekers → Broken ops → Failed x
  waits : arrived ops < required peekers → ¬ Broken ops → x.outcomes = [] ∧ x.consulted = []

theorem PeekPhase.peeked {ops : List PeekOp} (phase : PeekPhase peekers sock stream ops x) : Peeked peekers stream ops x := by
  cases phase with
  | waits reads short begun =>
      exact ⟨fun enough => absurd short (Nat.not_lt.mpr enough), fun _ broken => absurd broken reads, fun _ _ => ⟨rfl, rfl⟩⟩
  | decided enough decided ended =>
      exact ⟨fun _ => decided, fun short => absurd short (Nat.not_lt.mpr enough),
        fun short => absurd short (Nat.not_lt.mpr enough)⟩
  | failed broken short failed ended =>
      exact ⟨fun enough => absurd short (Nat.not_lt.mpr enough), fun _ _ => failed, fun _ reads => absurd broken reads⟩

end Wangle.Proof.Acceptor
