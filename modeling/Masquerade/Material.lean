import Masquerade.Error
import Masquerade.Logic.Describe

/-!
# Materials

A `Material` is what the content authors: a cost, a shelf life and a forest of logic. A `Piece` is one
owned copy of it. Each piece has a forest of its own, so that what gates count never passes between
two pieces of one material. The `Catalog` lists the materials in the order of loading and has at
most one of each id.
-/

namespace Masquerade

/-- How rare a material is. -/
inductive Quality where
  | common
  | uncommon
  | rare
  | epic
  | legendary
  deriving DecidableEq

namespace Quality

/-- The spelling in content files. -/
def name : Quality → String
  | common => "common"
  | uncommon => "uncommon"
  | rare => "rare"
  | epic => "epic"
  | legendary => "legendary"

/-- The quality as shown to the player. -/
def label (q : Quality) : String := q.name.capitalize

instance : Named Quality := ⟨[common, uncommon, rare, epic, legendary], name⟩

end Quality

/-- The name, quality, cost and logic of a material in words. -/
def materialText (name : String) (quality : Quality) (cost : UInt32) (forest : Forest) : String :=
  s!"{name} [{quality.label}, cost {cost.toNat}]\n" ++ forest.describe

/-- An authored material. -/
structure Material where
  id : String
  name : String
  manaCost : UInt32
  quality : Quality
  /-- How many make phases the material keeps in the inventory; less than one counts as one. -/
  shelfLifeTurns : UInt32
  forest : Forest

/-- One owned copy of a material. -/
structure Piece where
  id : InstanceId
  materialId : String
  name : String
  manaCost : UInt32
  quality : Quality
  shelfLifeTurns : UInt32
  /-- How many make phases are left to the piece in the inventory. -/
  remaining : UInt32
  forest : Forest

namespace Piece

/-- Starts the shelf life anew. -/
def fresh (p : Piece) : Piece := { p with remaining := max p.shelfLifeTurns 1 }

/-- One make phase later. -/
def aged (p : Piece) : Piece :=
  { p with remaining := if p.remaining = 0 then 0 else p.remaining - 1 }

/-- Whether the shelf life is over. -/
def isExpired (p : Piece) : Bool := p.remaining = 0

/-- The piece in words. -/
def describe (p : Piece) : String := materialText p.name p.quality p.manaCost p.forest

end Piece

namespace Material

/-- A new copy with full shelf life and nothing counted. -/
def instantiate (m : Material) (id : InstanceId) : Piece :=
  Piece.fresh {
    id := id
    materialId := m.id
    name := m.name
    manaCost := m.manaCost
    quality := m.quality
    shelfLifeTurns := max m.shelfLifeTurns 1
    remaining := 0
    forest := m.forest.reset }

/-- The material in words. -/
def describe (m : Material) : String := materialText m.name m.quality m.manaCost m.forest

end Material

/-- The materials of a game, in the order of loading. -/
structure Catalog where
  materials : List Material

namespace Catalog

/-- The catalog without materials. -/
def empty : Catalog := ⟨[]⟩

/-- The material with the given id. -/
def get? (c : Catalog) (id : String) : Option Material :=
  c.materials.find? (·.id == id)

/-- Enters a material; an id can be entered only once. -/
def register (c : Catalog) (m : Material) : Except GameError Catalog :=
  if (c.get? m.id).isSome then
    .error (.duplicateMaterial m.id)
  else
    .ok ⟨c.materials ++ [m]⟩

/-- A new copy of the material with the given id. -/
def instantiate (c : Catalog) (material : String) (id : InstanceId) : Except GameError Piece :=
  match c.get? material with
  | some m => .ok (m.instantiate id)
  | none => .error (.unknownMaterial material)

/-- The ids in the order of loading. -/
def ids (c : Catalog) : List String := c.materials.map (·.id)

end Catalog

end Masquerade
