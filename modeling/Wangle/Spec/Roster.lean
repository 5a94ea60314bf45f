import Wangle.Acceptor.ConnectionManager

namespace Wangle.Spec
open Wangle.Acceptor

/-- The busy connections, those that became busy last first, and the idle ones, those that became idle
first first. -/
structure Roster (Conn : Type) where
  busy : List Conn := []
  idle : List Conn := []
  deriving DecidableEq, Repr

namespace Roster
variable {Conn : Type}

def all (r : Roster Conn) : List Conn := r.busy ++ r.idle

def keep (kept : Conn → Bool) (r : Roster Conn) : Roster Conn := ⟨r.busy.filter kept, r.idle.filter kept⟩

theorem keep_true (r : Roster Conn) : r.keep (fun _ => true) = r := by simp [keep]

theorem keep_keep (r : Roster Conn) (p q : Conn → Bool) : (r.keep p).keep q = r.keep fun c => q c && p c := by
  simp [keep]

theorem keep_congr {r : Roster Conn} {p q : Conn → Bool} (same : ∀ c ∈ r.all, p c = q c) : r.keep p = r.keep q := by
  rw [keep, keep, List.filter_congr fun c member => same c (List.mem_append_left _ member),
    List.filter_congr fun c member => same c (List.mem_append_right _ member)]

theorem mem_keep_all {r : Roster Conn} {p : Conn → Bool} {c : Conn} : c ∈ (r.keep p).all ↔ c ∈ r.all ∧ p c = true := by
  simp [keep, all, or_and_right]

variable [DecidableEq Conn]

def after (r : Roster Conn) : Event Conn → Roster Conn
  | .added c => { r with busy := c :: r.busy }
  | .removed c => { busy := r.busy.erase c, idle := r.idle.erase c }
  | .activated c => { busy := c :: r.busy.erase c, idle := r.idle.erase c }
  | .deactivated c => { busy := r.busy.erase c, idle := r.idle.erase c ++ [c] }
  | _ => r

def replay (trace : List (Event Conn)) : Roster Conn := trace.foldl after {}

def asked (isManaged : Conn → Bool) (r : Roster Conn) : Op Conn → Roster Conn
  | .addConnection c _ => if isManaged c then r else r.after (.added c)
  | .onActivated c => r.after (.activated c)
  | .onDeactivated c => r.after (.deactivated c)
  | _ => r

/-- The roster of the operations: what each asks for is done, and who is not managed afterwards has left. -/
def follow : Roster Conn → ConnectionManager Conn → List (Op Conn) → Roster Conn
  | r, _, [] => r
  | r, s, op :: ops => match s.step op with
      | .error _ => r
      | .ok s' => follow ((r.asked s.isManaged op).keep s'.isManaged) s' ops

theorem after_removed {r : Roster Conn} (nodup : r.all.Nodup) (c : Conn) : r.after (.removed c) = r.keep (· != c) := by
  obtain ⟨busy, idle, -⟩ := List.nodup_append.mp nodup
  rw [after, keep, busy.erase_eq_filter, idle.erase_eq_filter]

theorem replay_append (trace more : List (Event Conn)) :
    replay (trace ++ more) = more.foldl after (replay trace) := List.foldl_append

theorem replay_concat (trace : List (Event Conn)) (e : Event Conn) :
    replay (trace ++ [e]) = (replay trace).after e := replay_append trace [e]

end Roster
end Wangle.Spec
