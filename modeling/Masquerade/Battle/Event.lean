import Masquerade.Attack

/-!
# Battle events

A battle reports what happens in it as a list of events. Events only inform: nothing in them can
change the battle. Each has a summary of one line.
-/

namespace Masquerade

/-- How a battle ended. -/
inductive Outcome where
  | victory
  | defeat
  deriving DecidableEq

/-- The outcome in one word. -/
def Outcome.label : Outcome → String
  | victory => "Victory"
  | defeat => "Defeat"

instance : Named Outcome := ⟨[.victory, .defeat], Outcome.label⟩

/-- Something that happened in a battle. -/
inductive Event where
  | entered (player enemy : String)
  | started
  /-- The effects of an attack have run and its pipeline is about to. -/
  | beforeAttack (attacker : Side) (actionNumber : UInt32) (attack : Attack)
  /-- The pipeline of an attack has run. -/
  | afterAttack (attacker : Side) (actionNumber : UInt32) (attack : Attack)
  /-- The damage of an attack has been dealt; the HP is the defender's before any later effect. -/
  | damageApplied (attacker defender : Side) (attack : Attack) (damage defenderHp : Float32)
  | ended (actions : UInt32)
  | victory
  | defeat
  deriving DecidableEq

/-- The event that tells an outcome. -/
def Outcome.event : Outcome → Event
  | victory => .victory
  | defeat => .defeat

/-- The event in one line. -/
def Event.summary : Event → String
  | entered player enemy => s!"{player} encounters {enemy}"
  | started => "Battle started"
  | beforeAttack attacker actionNumber attack =>
    let raw := Decimal.fixed 1 attack.rawAttack
    s!"#{actionNumber.toNat} {attacker.label} winds up (raw {raw})"
  | afterAttack attacker actionNumber attack =>
    let damage := Decimal.fixed 1 attack.damage
    let crit := if attack.isCrit then " (crit)" else ""
    s!"#{actionNumber.toNat} {attacker.label} resolved {damage}{crit}"
  | damageApplied attacker defender _ damage defenderHp =>
    let dealt := Decimal.fixed 1 damage
    let left := Decimal.plain defenderHp
    s!"{attacker.label} hits {defender.label} for {dealt}, {left} HP left"
  | ended actions => s!"Battle ended after {actions.toNat} actions"
  | victory => "Victory"
  | defeat => "Defeat"

end Masquerade
