import Masquerade.Combatant

/-!
# Attacks in flight

An `Attack` is built fresh from the attacker and then changed by effects and by the steps of a
pipeline. Its damage is the number that the finalizing step settles, or the raw attack as long as no
step has settled one.
-/

namespace Masquerade

/-- The numbers of an attack that an effect can change. -/
inductive AttackField where
  | rawAttack
  | baseValue
  | critChance
  | critMultiplier
  deriving DecidableEq

namespace AttackField

/-- The name of the number in running text. -/
def label : AttackField → String
  | rawAttack => "raw attack"
  | baseValue => "base attack"
  | critChance => "crit chance"
  | critMultiplier => "crit multiplier"

/-- The spelling in content files. -/
def name : AttackField → String
  | rawAttack => "raw_attack"
  | baseValue => "base_value"
  | critChance => "crit_chance"
  | critMultiplier => "crit_multiplier"

instance : Named AttackField := ⟨[rawAttack, baseValue, critChance, critMultiplier], name⟩

end AttackField

/-- The numbers of one attack. -/
structure Attack where
  /-- The attacker's attack when the attack was built. -/
  baseValue : Float32
  /-- The value that effects and steps work on. -/
  rawAttack : Float32
  critChance : Float32
  critMultiplier : Float32
  penetrationFlat : Float32
  penetrationPercent : Float32
  isCrit : Bool
  /-- The damage that the finalizing step settled. -/
  finalDamage : Option Float32
  deriving DecidableEq

namespace Attack

/-- A new attack of the given combatant. -/
def ofAttacker (c : Combatant) : Attack where
  baseValue := c.attack
  rawAttack := c.attack
  critChance := c.critChance
  critMultiplier := c.critMultiplier
  penetrationFlat := c.penetrationFlat
  penetrationPercent := c.penetrationPercent
  isCrit := false
  finalDamage := none

/-- Adds to one number, the chance of a critical hit staying in `[0, 1]` and its multiplier at one or
above. -/
def add (a : Attack) (field : AttackField) (amount : Float32) : Attack :=
  match field with
  | .rawAttack => { a with rawAttack := a.rawAttack + amount }
  | .baseValue => { a with baseValue := a.baseValue + amount }
  | .critChance => { a with critChance := (a.critChance + amount).within 0 1 }
  | .critMultiplier => { a with critMultiplier := (a.critMultiplier + amount).atLeast 1 }

/-- The damage to deal: the settled damage, or else the raw attack, and never below zero. -/
def damage (a : Attack) : Float32 :=
  (a.finalDamage.getD a.rawAttack).atLeast 0

end Attack

end Masquerade
