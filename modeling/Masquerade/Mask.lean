import Masquerade.Logic.Walk
import Masquerade.Material

/-!
# Masks

A mask is made by binding pieces to it. Binding spends the cost of the piece from the mask's mana and
then walks the piece's forest in the phase of binding, where effects may refill the mana. A piece
that the mana does not cover is refused, and nothing changes.
-/

namespace Masquerade

open RandomWords (Stream)

/-- A mask in the making or finished, with its pieces in the order of binding. -/
structure Mask where
  name : String
  mana : ManaPool
  pieces : List Piece

/-- A piece that the mana of a mask does not cover. -/
structure BindRefusal where
  needed : UInt32
  available : UInt32
  piece : Piece

/-- The refusal in words. -/
def BindRefusal.message (r : BindRefusal) : String :=
  s!"Not enough mana to bind {r.piece.name}: need {r.needed.toNat}, have {r.available.toNat}"

namespace Mask

/-- A mask without pieces. -/
def new (name : String) (mana : UInt32) : Mask := ⟨name, .full mana, []⟩

/-- Binds a piece: the mask afterwards and the random words that are left. -/
def bind (mask : Mask) (piece : Piece) (rng : Stream) : Except BindRefusal (Mask × Stream) :=
  match mask.mana.spend? piece.manaCost with
  | none => .error ⟨piece.manaCost, mask.mana.current, piece⟩
  | some mana =>
    let (forest, targets, rng) := piece.forest.run { phase := .bind } { mana := some mana } rng
    let bound := { piece with forest := forest }
    .ok ({ mask with mana := targets.mana.getD mana, pieces := mask.pieces ++ [bound] }, rng)

/-- The forests of the pieces in the order of binding. -/
def forests (mask : Mask) : List Forest := mask.pieces.map (·.forest)

/-- Gives the pieces, in the order of binding, the first of the given forests; answers the mask and the
forests that are left over. -/
def takeForests (mask : Mask) (forests : List Forest) : Mask × List Forest :=
  let count := mask.pieces.length
  let replaced := List.zipWith (fun p F => { p with forest := F }) mask.pieces forests
  ({ mask with pieces := replaced ++ mask.pieces.drop forests.length }, forests.drop count)

/-- The mask in words. -/
def describe (mask : Mask) : String :=
  let head := s!"{mask.name} (mana {mask.mana.current.toNat}/{mask.mana.base.toNat})\n"
  String.join (head :: mask.pieces.map Piece.describe)

end Mask

/-- The forests of several masks in a row. -/
def masksForests (masks : List Mask) : List Forest := masks.flatMap Mask.forests

/-- Gives forests back to the pieces of several masks, in the order in which `masksForests` lists
them; answers the masks and the forests that are left over. -/
def masksTakeForests : List Mask → List Forest → List Mask × List Forest
  | [], forests => ([], forests)
  | mask :: rest, forests =>
    let (mask, forests) := mask.takeForests forests
    let (rest, forests) := masksTakeForests rest forests
    (mask :: rest, forests)

end Masquerade
