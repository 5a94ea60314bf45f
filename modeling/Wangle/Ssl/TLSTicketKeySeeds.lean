import Mathlib.Init

/-!
# `TLSTicketKeySeeds`
-/

namespace Wangle.Ssl

structure TLSTicketKeySeeds where
  oldSeeds : List String
  currentSeeds : List String
  newSeeds : List String
  deriving DecidableEq, Repr

namespace TLSTicketKeySeeds

def isEmpty (seeds : TLSTicketKeySeeds) : Bool :=
  seeds.oldSeeds.isEmpty && seeds.currentSeeds.isEmpty && seeds.newSeeds.isEmpty

def isNotEmpty (seeds : TLSTicketKeySeeds) : Bool :=
  !seeds.oldSeeds.isEmpty && !seeds.currentSeeds.isEmpty && !seeds.newSeeds.isEmpty

def areSeedsSubset (lhs rhs : List String) : Bool :=
  if lhs.length > rhs.length then false else lhs.all fun v => decide (v ∈ rhs)

def isValidRotation (seeds next : TLSTicketKeySeeds) : Bool :=
  (seeds.isEmpty && next.isNotEmpty) ||
    (areSeedsSubset seeds.newSeeds next.currentSeeds && areSeedsSubset seeds.currentSeeds next.oldSeeds) ||
    (areSeedsSubset seeds.oldSeeds next.oldSeeds && areSeedsSubset seeds.currentSeeds next.currentSeeds &&
      areSeedsSubset seeds.newSeeds next.newSeeds)

end TLSTicketKeySeeds
end Wangle.Ssl
