/-!
# Named choices and the two sides

Content files and reports spell the game's small choices by name; `Named` lists a type's choices with
their spellings and `Named.find?` reads one back. The first such choice is the `Side` of a battle,
and `PerSide` holds one value for each of the two.
-/

namespace Masquerade

/-- A type of finitely many choices, each with a spelling of its own. -/
class Named (α : Type) where
  /-- The choices, in their order. -/
  all : List α
  /-- The spelling in content files and reports. -/
  name : α → String

/-- The choice spelled `text`. -/
def Named.find? (α : Type) [Named α] (text : String) : Option α :=
  (Named.all : List α).find? fun choice => Named.name choice == text

/-- Which side of a battle a combatant fights on. -/
inductive Side where
  | player
  | enemy
  deriving DecidableEq

namespace Side

/-- The other side. -/
def opposite : Side → Side
  | player => enemy
  | enemy => player

/-- The name of the side in running text. -/
def label : Side → String
  | player => "player"
  | enemy => "enemy"

/-- Both sides, in the order in which a tick tries them. -/
def order : List Side := [player, enemy]

instance : Named Side := ⟨order, label⟩

@[simp] theorem opposite_opposite (s : Side) : s.opposite.opposite = s := by
  cases s <;> rfl

end Side

/-- One value for each side. -/
structure PerSide (α : Type) where
  player : α
  enemy : α
  deriving DecidableEq

namespace PerSide

variable {α β : Type}

/-- The same value on both sides. -/
def both (a : α) : PerSide α := ⟨a, a⟩

/-- The value of one side. -/
def get (p : PerSide α) : Side → α
  | .player => p.player
  | .enemy => p.enemy

/-- Changes the value of one side. -/
def modify (p : PerSide α) (side : Side) (f : α → α) : PerSide α :=
  match side with
  | .player => { p with player := f p.player }
  | .enemy => { p with enemy := f p.enemy }

/-- Replaces the value of one side. -/
def set (p : PerSide α) (side : Side) (a : α) : PerSide α :=
  p.modify side fun _ => a

/-- Changes the values of both sides, each knowing its side. -/
def mapSides (f : Side → α → β) (p : PerSide α) : PerSide β :=
  ⟨f .player p.player, f .enemy p.enemy⟩

@[simp] theorem get_mapSides (f : Side → α → β) (p : PerSide α) (s : Side) :
    (p.mapSides f).get s = f s (p.get s) := by
  cases s <;> rfl

end PerSide

end Masquerade
