import Masquerade.Stats

/-!
# Combatants

A `Profile` holds the numbers with which one side enters a battle, and a `Combatant` that side's
live state. Every change of a combatant moves the changed numbers back into their domains at once,
so that effects can push numbers around freely. Luck has no value in battle.
-/

namespace Masquerade

/-- The numbers with which one side enters a battle. -/
structure Profile where
  name : String := "Unknown"
  maxHp : Float32 := 10
  attack : Float32 := 1
  defense : Float32 := 0
  critChance : Float32 := 0
  critMultiplier : Float32 := 1.5
  speedRate : Int32 := 1
  penetrationFlat : Float32 := 0
  penetrationPercent : Float32 := 0
  deriving DecidableEq

/-- The profile of a player with the permanent stats of now. -/
def Profile.ofRecord (r : PlayerRecord) : Profile where
  name := r.name
  maxHp := r.actual.maxHp
  attack := r.actual.attack
  defense := r.actual.defense
  critChance := r.actual.critChance
  critMultiplier := r.actual.critMultiplier
  speedRate := r.actual.speedRate
  penetrationFlat := r.actual.penetrationFlat
  penetrationPercent := r.actual.penetrationPercent

/-- One side's live state in a battle. -/
structure Combatant where
  name : String
  maxHp : Float32
  currentHp : Float32
  attack : Float32
  defense : Float32
  critChance : Float32
  critMultiplier : Float32
  speedRate : Int32
  penetrationFlat : Float32
  penetrationPercent : Float32
  deriving DecidableEq

namespace Combatant

/-- A combatant at full HP, every number of the profile moved into its domain. -/
def ofProfile (p : Profile) : Combatant where
  name := p.name
  maxHp := p.maxHp.atLeast 1
  currentHp := p.maxHp.atLeast 1
  attack := p.attack.atLeast 0
  defense := p.defense.atLeast 0
  critChance := p.critChance.within 0 1
  critMultiplier := p.critMultiplier.atLeast 1
  speedRate := max p.speedRate 0
  penetrationFlat := p.penetrationFlat.atLeast 0
  penetrationPercent := p.penetrationPercent.within 0 1

/-- Whether the combatant has fallen. -/
def isDead (c : Combatant) : Bool := c.currentHp ≤ 0

/-! ## Changes -/

/-- Changes the attack. -/
def addAttack (c : Combatant) (d : Float32) : Combatant :=
  { c with attack := (c.attack + d).atLeast 0 }

/-- Changes the defense. -/
def addDefense (c : Combatant) (d : Float32) : Combatant :=
  { c with defense := (c.defense + d).atLeast 0 }

/-- Changes the chance of a critical hit. -/
def addCritChance (c : Combatant) (d : Float32) : Combatant :=
  { c with critChance := (c.critChance + d).within 0 1 }

/-- Changes the multiplier of a critical hit. -/
def addCritMultiplier (c : Combatant) (d : Float32) : Combatant :=
  { c with critMultiplier := (c.critMultiplier + d).atLeast 1 }

/-- Changes the speed. -/
def addSpeedRate (c : Combatant) (d : Int32) : Combatant :=
  { c with speedRate := max (c.speedRate.addSaturating d) 0 }

/-- Changes the amount of defense that attacks ignore. -/
def addPenetrationFlat (c : Combatant) (d : Float32) : Combatant :=
  { c with penetrationFlat := (c.penetrationFlat + d).atLeast 0 }

/-- Changes the fraction of defense that attacks ignore. -/
def addPenetrationPercent (c : Combatant) (d : Float32) : Combatant :=
  { c with penetrationPercent := (c.penetrationPercent + d).within 0 1 }

/-- Changes the greatest HP. With `heal` the current HP moves by the same amount; either way it stays
between zero and the new greatest HP. -/
def addMaxHp (c : Combatant) (d : Float32) (heal : Bool) : Combatant :=
  let maxHp := (c.maxHp + d).atLeast 1
  let hp := if heal then c.currentHp + (maxHp - c.maxHp) else c.currentHp
  { c with maxHp := maxHp, currentHp := hp.within 0 maxHp }

/-- Heals or hurts directly, between zero and the greatest HP. -/
def addCurrentHp (c : Combatant) (d : Float32) : Combatant :=
  { c with currentHp := (c.currentHp + d).within 0 c.maxHp }

/-- Takes the damage of an attack; an amount that is not above zero does nothing. -/
def takeDamage (c : Combatant) (amount : Float32) : Combatant :=
  if amount ≤ 0 then c else { c with currentHp := (c.currentHp - amount).atLeast 0 }

/-! ## Stats by key -/

/-- The value of a stat in battle; luck has none. -/
def get? (c : Combatant) : Stat → Option Float32
  | .maxHp => some c.maxHp
  | .attack => some c.attack
  | .defense => some c.defense
  | .critChance => some c.critChance
  | .critMultiplier => some c.critMultiplier
  | .speedRate => some c.speedRate.toSingle
  | .luck => none
  | .penetrationFlat => some c.penetrationFlat
  | .penetrationPercent => some c.penetrationPercent

/-- The combatant with `amount` added to a stat, or nothing for a stat without a value in battle. -/
def add? (c : Combatant) (stat : Stat) (amount : Float32) (heal : Bool) : Option Combatant :=
  match stat with
  | .maxHp => some (c.addMaxHp amount heal)
  | .attack => some (c.addAttack amount)
  | .defense => some (c.addDefense amount)
  | .critChance => some (c.addCritChance amount)
  | .critMultiplier => some (c.addCritMultiplier amount)
  | .speedRate => some (c.addSpeedRate amount.roundToInt32)
  | .luck => none
  | .penetrationFlat => some (c.addPenetrationFlat amount)
  | .penetrationPercent => some (c.addPenetrationPercent amount)

/-- Adds a list of amounts one after the other, leaving out stats without a value in battle. -/
def addAll (c : Combatant) (amounts : List (Stat × Float32)) (heal : Bool) : Combatant :=
  amounts.foldl (fun c a => (c.add? a.1 a.2 heal).getD c) c

end Combatant

/-- What a display shows of a combatant: HP and how far the gauge has filled. -/
structure CombatantView where
  name : String
  currentHp : Float32
  maxHp : Float32
  gaugeRatio : Float32

/-- The view of a combatant whose gauge has filled to `ratio` of an attack. -/
def Combatant.view (c : Combatant) (ratio : Float32) : CombatantView :=
  ⟨c.name, c.currentHp, c.maxHp, ratio.within 0 1⟩

/-- Whether either side has fallen. -/
def PerSide.isDecided (cs : PerSide Combatant) : Bool :=
  cs.player.isDead || cs.enemy.isDead

end Masquerade
