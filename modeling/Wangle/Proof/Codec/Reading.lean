import Wangle.Codec.ByteToMessageDecoder
import Wangle.Incremental.Tokenizer
import Mathlib.Data.List.Induction

/-!
# What `read` does with a queue
-/

namespace Wangle.Proof.Codec
open Wangle.Codec Wangle.Incremental

variable {σ M : Type} {d : ByteToMessageDecoder σ M}

def Progressive (d : ByteToMessageDecoder σ M) : Prop :=
  ∀ s q result s' q', d.decode s q = .success result s' q' → q'.length < q.length

theorem readWithin_stable (progress : Progressive d) (n m : Nat) (s : σ) (q : Bytes)
    (enough : q.length < n) (more : q.length < m) :
    d.readWithin n s q = d.readWithin m s q := by
  induction n generalizing m s q with
  | zero => omega
  | succ n ih =>
      cases m with
      | zero => omega
      | succ m =>
          cases decoded : d.decode s q with
          | insufficient s' q' fired => simp only [ByteToMessageDecoder.readWithin, decoded]
          | threw e s' q' => simp only [ByteToMessageDecoder.readWithin, decoded]
          | success result s' q' =>
              have shorter := progress s q result s' q' decoded
              simp only [ByteToMessageDecoder.readWithin, decoded,
                ih m s' q' (by omega) (by omega)]

theorem read_insufficient {s s' : σ} {q q' : Bytes} {fired : List (Event M)}
    (decoded : d.decode s q = .insufficient s' q' fired) :
    d.read s q = ⟨s', q', fired, [], true⟩ := by
  simp only [ByteToMessageDecoder.read, ByteToMessageDecoder.readWithin, decoded]

theorem read_threw {s s' : σ} {q q' : Bytes} {e : Thrown} (decoded : d.decode s q = .threw e s' q') :
    d.read s q = ⟨s', q', [], [e], true⟩ := by
  simp only [ByteToMessageDecoder.read, ByteToMessageDecoder.readWithin, decoded]

theorem read_success (progress : Progressive d) {s s' : σ} {q q' : Bytes} {result : M}
    (decoded : d.decode s q = .success result s' q') :
    d.read s q = { d.read s' q' with fired := .read result :: (d.read s' q').fired } := by
  have shorter := progress s q result s' q' decoded
  simp only [ByteToMessageDecoder.read, IOBufQueue.chainLength]
  rw [ByteToMessageDecoder.readWithin, decoded]
  simp only [readWithin_stable progress q.length (q'.length + 1) s' q' (by omega) (by omega)]

theorem read_finished (progress : Progressive d) (s : σ) (q : Bytes) : (d.read s q).finished = true := by
  induction size : q.length using Nat.strongRecOn generalizing s q with
  | _ n ih =>
      cases decoded : d.decode s q with
      | insufficient s' q' fired => rw [read_insufficient decoded]
      | threw e s' q' => rw [read_threw decoded]
      | success result s' q' =>
          rw [read_success progress decoded]
          exact ih q'.length (size ▸ progress s q result s' q' decoded) s' q' rfl

theorem feedAll_concat (s : σ) (chunks : List Bytes) (chunk : Bytes) :
    d.feedAll s (chunks ++ [chunk]) = d.feed (d.feedAll s chunks) chunk := by
  simp [ByteToMessageDecoder.feedAll]

theorem feedAll_induction {P : Bytes → Reading σ M → Prop} {s : σ} (stream : Bytes)
    (start : P [] ⟨s, [], [], [], true⟩)
    (step : ∀ before r chunk, before ++ chunk <+: stream → P before r →
      P (before ++ chunk) (d.feed r chunk))
    (chunks : List Bytes) (cut : chunks.flatten = stream) : P stream (d.feedAll s chunks) := by
  have along : ∀ chunks : List Bytes, chunks.flatten <+: stream →
      P chunks.flatten (d.feedAll s chunks) := by
    intro chunks
    induction chunks using List.reverseRecOn with
    | nil => exact fun _ => start
    | append_singleton chunks chunk ih =>
        intro begins
        simp only [List.flatten_append, List.flatten_cons, List.flatten_nil, List.append_nil] at begins ⊢
        rw [feedAll_concat]
        exact step _ _ _ begins (ih ((List.prefix_append _ _).trans begins))
  have result := along chunks (cut ▸ List.prefix_rfl)
  rwa [cut] at result

/-! ## Decoders that follow a tokenizer -/

inductive Taken (M : Type)
  | frame (message : M)
  | failed (what : String)
  | lost (e : Thrown)

namespace Taken

def fired : Taken M → List (Event M)
  | .frame message => [.read message]
  | .failed what => [.readException what]
  | .lost _ => []

def thrown : Taken M → List Thrown
  | .lost e => [e]
  | _ => []

def decoded (s : σ) (rest : Bytes) : Taken M → Decoded σ M
  | .frame message => .success message s rest
  | .failed what => .insufficient s rest [.readException what]
  | .lost e => .threw e s rest

def Stops : Taken M → Prop
  | .frame _ => False
  | _ => True

end Taken

/-- On the queues in `P` the decoder takes what the tokenizer takes. `read` stops at the first
failure, so nothing may be left to take behind one. -/
structure Follows (d : ByteToMessageDecoder σ M) (s : σ) (rule : Tokenizer UInt8 (Taken M))
    (P : Bytes → Prop) : Prop where
  waits : ∀ q, P q → rule.next q = none → d.decode s q = .insufficient s q []
  takes : ∀ q token rest, P q → rule.next q = some (token, rest) → d.decode s q = token.decoded s rest
  stops : ∀ q token rest, P q → rule.next q = some (token, rest) → token.Stops → rule.next rest = none
  taken : ∀ q token rest, P q → rule.next q = some (token, rest) → P rest
  begins : ∀ q more, P (q ++ more) → P q

def outcome (s : σ) (tokens : List (Taken M) × Bytes) : Reading σ M :=
  ⟨s, tokens.2, tokens.1.flatMap Taken.fired, tokens.1.flatMap Taken.thrown, true⟩

theorem outcome_frames (s : σ) (messages : List M) (rest : Bytes) :
    outcome s (messages.map .frame, rest) = ⟨s, rest, messages.map .read, [], true⟩ := by
  simp only [outcome, List.flatMap_map, Taken.fired, Taken.thrown]
  induction messages with
  | nil => rfl
  | cons message messages ih =>
      simp only [List.flatMap_cons, List.nil_append, List.cons_append, List.map_cons, Reading.mk.injEq,
        List.cons.injEq, true_and] at ih ⊢
      exact ih

namespace Follows
variable {s : σ} {rule : Tokenizer UInt8 (Taken M)} {P : Bytes → Prop}

theorem readWithin (follows : Follows d s rule P) (n : Nat) (q : Bytes) (good : P q)
    (enough : q.length < n) : d.readWithin n s q = outcome s (rule.split q) := by
  induction n generalizing q with
  | zero => omega
  | succ n ih =>
      cases next : rule.next q with
      | none =>
          rw [rule.split_of_none next, ByteToMessageDecoder.readWithin, follows.waits q good next]
          rfl
      | some pair =>
          obtain ⟨token, rest⟩ := pair
          have shorter := rule.shrinks q token rest next
          rw [rule.split_of_some next, ByteToMessageDecoder.readWithin, follows.takes q token rest good next]
          cases token with
          | frame message =>
              simp only [Taken.decoded, ih rest (follows.taken _ _ _ good next) (by omega)]
              rfl
          | failed what =>
              simp only [Taken.decoded, rule.split_of_none (follows.stops _ _ _ good next trivial)]
              rfl
          | lost e =>
              simp only [Taken.decoded, rule.split_of_none (follows.stops _ _ _ good next trivial)]
              rfl

theorem read (follows : Follows d s rule P) (q : Bytes) (good : P q) :
    d.read s q = outcome s (rule.split q) :=
  follows.readWithin _ q good (Nat.lt_succ_self _)

theorem tail_append (follows : Follows d s rule P) (q more : Bytes) (good : P (q ++ more)) :
    P ((rule.split q).2 ++ more) := by
  induction q using rule.split_induction with
  | waits q next => rwa [rule.split_of_none next]
  | takes q token rest next ih =>
      rw [rule.split_of_some next]
      exact ih (follows.taken _ _ _ good (rule.stable q token rest more next))

theorem feedAll (follows : Follows d s rule P) (stream : Bytes) (good : P stream)
    (chunks : List Bytes) (cut : chunks.flatten = stream) :
    d.feedAll s chunks = outcome s (rule.split stream) := by
  apply feedAll_induction (P := fun before r => r = outcome s (rule.split before)) stream _ _ chunks cut
  · rw [rule.split_nil]
    rfl
  · rintro before r chunk ⟨more, begins⟩ rfl
    have goodQueue := follows.tail_append before chunk (follows.begins _ more (begins ▸ good))
    simp only [ByteToMessageDecoder.feed, outcome, follows.read _ goodQueue, rule.split_append before chunk,
      List.flatMap_append, Bool.and_self]

end Follows
end Wangle.Proof.Codec
