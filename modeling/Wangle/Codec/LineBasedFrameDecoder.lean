import Wangle.Codec.ByteToMessageDecoder

namespace Wangle.Codec

def newline : UInt8 := 10
def carriageReturn : UInt8 := 13

inductive TerminatorType
  | both
  | newline
  | carriageNewline
  deriving DecidableEq, Repr

structure LineBasedFrameDecoder where
  maxLength : UInt32 := 0xFFFFFFFF
  stripDelimiter : Bool := true
  terminatorType : TerminatorType := .both
  deriving DecidableEq, Repr

namespace LineBasedFrameDecoder

structure State where
  discarding : Bool := false
  discardedBytes : UInt32 := 0
  deriving DecidableEq, Repr

variable (d : LineBasedFrameDecoder)

/-- The loop of `findEndOfLine`: `steps` iterations are left, `i` is the index and `c` the cursor.
The look-ahead after a carriage return moves the cursor but not the index. -/
def findEndOfLineFrom : (steps i : Nat) → (c : Bytes) → Except Thrown (Option Nat)
  | 0, _, _ => .ok none
  | steps+1, i, c => match Cursor.read c with
      | .error e => .error e
      | .ok (b, c) =>
          if b = newline ∧ d.terminatorType ≠ .carriageNewline then .ok (some i)
          else if d.terminatorType ≠ .newline ∧ b = carriageReturn ∧ Cursor.isAtEnd c = false then
            match Cursor.read c with
            | .error e => .error e
            | .ok (next, c) => if next = newline then .ok (some i) else findEndOfLineFrom steps (i+1) c
          else findEndOfLineFrom steps (i+1) c

def findEndOfLine (buf : Bytes) : Except Thrown (Option Nat) :=
  d.findEndOfLineFrom (min d.maxLength.toNat (IOBufQueue.chainLength buf)) 0 buf

def delimLength (buf : Bytes) (eol : Nat) : Except Thrown Nat :=
  match Cursor.skip eol buf with
  | .error e => .error e
  | .ok c => match Cursor.read c with
      | .error e => .error e
      | .ok (b, _) => .ok (if b = carriageReturn then 2 else 1)

def fail (len : String) : Event Bytes :=
  .readException ("frame length" ++ len ++ " exeeds max " ++ toString d.maxLength.toNat)

def decodeLine (s : State) (buf : Bytes) (eol : Nat) : Decoded State Bytes :=
  match delimLength buf eol with
  | .error e => .threw e s buf
  | .ok delimLength =>
      if eol > d.maxLength.toNat then
        match IOBufQueue.split (eol + delimLength) buf with
        | .error e => .threw e s []
        | .ok (_, buf) => .insufficient s buf [d.fail (toString eol)]
      else if d.stripDelimiter then
        match IOBufQueue.split eol buf with
        | .error e => .threw e s []
        | .ok (frame, buf) => match IOBufQueue.trimStart delimLength buf with
            | .error e => .threw e s []
            | .ok buf => .success frame s buf
      else
        match IOBufQueue.split (eol + delimLength) buf with
        | .error e => .threw e s []
        | .ok (frame, buf) => .success frame s buf

def decodeUnterminated (s : State) (buf : Bytes) : Decoded State Bytes :=
  let len := IOBufQueue.chainLength buf
  if len > d.maxLength.toNat then
    .insufficient { discarding := true, discardedBytes := UInt32.ofNat len } (buf.drop len)
      [d.fail ("over " ++ toString len)]
  else .insufficient s buf []

def decodeDiscarding (s : State) (buf : Bytes) : Option Nat → Decoded State Bytes
  | some eol => match delimLength buf eol with
      | .error e => .threw e s buf
      | .ok delimLength => match IOBufQueue.trimStart (eol + delimLength) buf with
          | .error e => .threw e s []
          | .ok buf => .insufficient { discarding := false, discardedBytes := 0 } buf []
  | none =>
      .insufficient { s with discardedBytes := UInt32.ofNat (IOBufQueue.chainLength buf) } [] []

def decode (s : State) (buf : Bytes) : Decoded State Bytes :=
  match d.findEndOfLine buf with
  | .error e => .threw e s buf
  | .ok eol =>
      if s.discarding = false then
        match eol with
        | some eol => d.decodeLine s buf eol
        | none => d.decodeUnterminated s buf
      else decodeDiscarding s buf eol

def decoder : ByteToMessageDecoder State Bytes := ⟨d.decode⟩

end LineBasedFrameDecoder
end Wangle.Codec
