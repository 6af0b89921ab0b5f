import Masquerade.Single

/-!
# Mana

A mask begins with a pool of mana, binding a material spends from it, and some effects refill it.
Refilling is not bounded by what the pool began with.
-/

namespace Masquerade

/-- The mana a mask began with and the mana it has left. -/
structure ManaPool where
  base : UInt32
  current : UInt32
  deriving DecidableEq

namespace ManaPool

/-- A full pool. -/
def full (base : UInt32) : ManaPool := ⟨base, base⟩

/-- Whether the mana left covers `cost`. -/
def affords (p : ManaPool) (cost : UInt32) : Bool := cost ≤ p.current

/-- The pool after spending `cost`, if the mana left covers it. -/
def spend? (p : ManaPool) (cost : UInt32) : Option ManaPool :=
  if p.affords cost then some { p with current := p.current - cost } else none

/-- The pool after a refill, which stops at the end of the 32-bit range. -/
def restore (p : ManaPool) (amount : UInt32) : ManaPool :=
  { p with current := p.current.addSaturating amount }

end ManaPool

end Masquerade
