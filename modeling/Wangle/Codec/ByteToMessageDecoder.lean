import Mathlib.Data.List.Basic

/-!
# Byte-stream decoders

`ByteToMessageDecoder::read` over the operations of `folly::IOBufQueue` and `folly::io::Cursor` that
the decoders use. A queue is the bytes of its chain; a cursor is the bytes it has not read yet.
-/

namespace Wangle.Codec

abbrev Bytes := List UInt8

inductive Thrown
  -- `std::out_of_range` of a cursor
  | outOfRange
  -- `std::underflow_error` of a queue
  | underflow
  -- `std::runtime_error`
  | runtime (what : String)
  -- an uninitialised variable is read
  | indeterminate
  deriving DecidableEq, Repr

namespace Cursor

def read : Bytes → Except Thrown (UInt8 × Bytes)
  | [] => .error .outOfRange
  | b :: rest => .ok (b, rest)

def skip (n : Nat) (c : Bytes) : Except Thrown Bytes :=
  if n ≤ c.length then .ok (c.drop n) else .error .outOfRange

def isAtEnd (c : Bytes) : Bool := c.isEmpty

end Cursor

namespace IOBufQueue

def chainLength (q : Bytes) : Nat := q.length

/-- `split(n)` and `trimStart(n)` take bytes until the queue is empty and only then throw, so a
failed call leaves an empty queue. -/
def split (n : Nat) (q : Bytes) : Except Thrown (Bytes × Bytes) :=
  if n ≤ q.length then .ok (q.take n, q.drop n) else .error .underflow

def trimStart (n : Nat) (q : Bytes) : Except Thrown Bytes :=
  if n ≤ q.length then .ok (q.drop n) else .error .underflow

def trimStartAtMost (n : Nat) (q : Bytes) : Bytes := q.drop n

end IOBufQueue

inductive Event (M : Type)
  | read (message : M)
  | readException (what : String)
  deriving DecidableEq, Repr

def Event.message? {M : Type} : Event M → Option M
  | .read message => some message
  | .readException _ => none

/-- One call of `decode`: it returns false after firing `fired`, or returns true with a result,
or lets an exception escape. -/
inductive Decoded (σ M : Type)
  | insufficient (state : σ) (queue : Bytes) (fired : List (Event M))
  | success (result : M) (state : σ) (queue : Bytes)
  | threw (e : Thrown) (state : σ) (queue : Bytes)

structure ByteToMessageDecoder (σ M : Type) where
  decode : σ → Bytes → Decoded σ M

structure Reading (σ M : Type) where
  state : σ
  queue : Bytes
  fired : List (Event M)
  thrown : List Thrown
  finished : Bool
  deriving DecidableEq

namespace ByteToMessageDecoder
variable {σ M : Type} (d : ByteToMessageDecoder σ M)

def readWithin : Nat → σ → Bytes → Reading σ M
  | 0, s, q => ⟨s, q, [], [], false⟩
  | n+1, s, q => match d.decode s q with
      | .insufficient s q fired => ⟨s, q, fired, [], true⟩
      | .success result s q =>
          let r := readWithin n s q
          { r with fired := .read result :: r.fired }
      | .threw e s q => ⟨s, q, [], [e], true⟩

/-- `read`: no decoder can succeed more often than the queue has bytes, unless its loop does not
end. -/
def read (s : σ) (q : Bytes) : Reading σ M := d.readWithin (IOBufQueue.chainLength q + 1) s q

def feed (r : Reading σ M) (chunk : Bytes) : Reading σ M :=
  let r' := d.read r.state (r.queue ++ chunk)
  { state := r'.state
    queue := r'.queue
    fired := r.fired ++ r'.fired
    thrown := r.thrown ++ r'.thrown
    finished := r.finished && r'.finished }

def feedAll (s : σ) (chunks : List Bytes) : Reading σ M :=
  chunks.foldl d.feed ⟨s, [], [], [], true⟩

end ByteToMessageDecoder
end Wangle.Codec
