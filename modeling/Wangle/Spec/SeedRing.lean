import Mathlib.Data.Set.Basic

/-!
# The seeds of a server and the tickets that it issues and decrypts
-/

namespace Wangle.Spec

structure SeedRing (Seed : Type) where
  old : Set Seed
  current : Set Seed
  new : Set Seed

namespace SeedRing
variable {Seed : Type} {ring next : SeedRing Seed} {s : Seed}

/-- A seed that is old is not used for new tickets, even if it is listed as current as well. -/
def Issues (ring : SeedRing Seed) (s : Seed) : Prop := s ∈ ring.current ∧ s ∉ ring.old

def Decrypts (ring : SeedRing Seed) (s : Seed) : Prop := s ∈ ring.old ∨ s ∈ ring.current ∨ s ∈ ring.new

/-- A server that cannot issue tickets does not look at any. -/
def Serves (ring : SeedRing Seed) : Prop := ∃ s, ring.Issues s

def Live (ring : SeedRing Seed) (s : Seed) : Prop := s ∈ ring.old ∨ s ∈ ring.current

def Keeps (ring next : SeedRing Seed) : Prop := ∀ s ∈ ring.current, next.Live s

theorem Issues.live (issues : ring.Issues s) : ring.Live s := .inr issues.1

theorem Live.decrypts (live : ring.Live s) : ring.Decrypts s := live.imp_right .inl

theorem Keeps.live (keeps : ring.Keeps next) (stays : s ∈ ring.old → s ∈ next.old) (live : ring.Live s) :
    next.Live s := by
  rcases live with old | current
  · exact .inl (stays old)
  · exact keeps s current

end SeedRing
end Wangle.Spec
