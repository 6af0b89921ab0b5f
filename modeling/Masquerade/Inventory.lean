import Masquerade.Material

/-!
# Inventory

The inventory holds pieces in the order in which they came, no two with the same identity. Every make
phase takes one turn of shelf life from each, and those without any left are discarded.
-/

namespace Masquerade

/-- The pieces in stock. -/
structure Inventory where
  items : List Piece

namespace Inventory

/-- The empty inventory. -/
def empty : Inventory := ⟨[]⟩

/-- The piece with the given identity. -/
def find? (inv : Inventory) (id : InstanceId) : Option Piece :=
  inv.items.find? fun p => p.id = id

/-- Whether a piece with the given identity is in stock. -/
def contains (inv : Inventory) (id : InstanceId) : Bool := (inv.find? id).isSome

/-- Returns a piece at the end, as it is; one that is in stock is not stocked twice. -/
def putBack (inv : Inventory) (p : Piece) : Inventory :=
  if inv.contains p.id then inv else ⟨inv.items ++ [p]⟩

/-- Stocks a piece at the end, with its shelf life started anew. -/
def add (inv : Inventory) (p : Piece) : Inventory := inv.putBack p.fresh

/-- The inventory without the piece of the given identity. -/
def erase (inv : Inventory) (id : InstanceId) : Inventory :=
  ⟨inv.items.eraseP fun p => p.id = id⟩

/-- Ends a make phase: the pieces that expire, and the inventory that is left. -/
def endMakePhase (inv : Inventory) : List Piece × Inventory :=
  let (expired, kept) := (inv.items.map Piece.aged).partition Piece.isExpired
  (expired, ⟨kept⟩)

/-- The identities of the pieces with shelf life left, in the order in which they expire; pieces that
expire together keep their order. -/
def idsByExpiry (inv : Inventory) : List InstanceId :=
  let live := inv.items.filter fun p => !p.isExpired
  (live.mergeSort fun p q => p.remaining ≤ q.remaining).map (·.id)

end Inventory

end Masquerade
