import Masquerade.Battle.Fight
import Masquerade.Proofs.Logic.Frame

/-!
# Blows

A `Blow` is an attack that a fight makes: the side that attacks, and the fight as the attack finds it.
The fights that an attack goes through are named after what has just happened in them: `announced`
once the effects on the attack have run, `judged` once the pipeline has run, `struck` once the damage
is dealt, and `resolved` once everything is over and the attack is counted. Each of the three events
of an attack is emitted in one of the first three (`told`). The attack itself is `built` from the
attacker, `modified` by the effects and `settled` by the pipeline.
-/

namespace Masquerade

variable {σ : Type}

/-! ## What a walk leaves of a fight -/

namespace Fight

/-- The effects on an attack do not touch the combatants. -/
theorem traverse_combatants {m : Moment} (h : m.phase = .attackModify) (f : Fight σ)
    (a : Option Attack) : (f.traverse m a).1.combatants = f.combatants := by
  have same := Forest.runAll_keeps_others h f.forests
    { attack := a, combatants := some f.combatants } f.rng
  show (Forest.runAll f.forests m _ f.rng).2.1.combatants.getD f.combatants = f.combatants
  rw [same.combatants]
  rfl

end Fight

/-! ## The course of an attack -/

/-- An attack that a fight makes: the side that attacks, and the fight that it finds, in which its
gauge is already spent. -/
structure Blow (σ : Type) where
  side : Side
  fight : Fight σ

namespace Blow

def number (b : Blow σ) : UInt32 := b.fight.counters.actions + 1

def built (b : Blow σ) : Attack := Attack.ofAttacker (b.fight.combatants.get b.side)

/-- The walk of the effects on the attack. -/
def modifying (b : Blow σ) : Fight σ × Option Attack :=
  b.fight.traverse (b.fight.attackMoment .attackModify b.side b.built 0) (some b.built)

def announced (b : Blow σ) : Fight σ := b.modifying.1

def modified (b : Blow σ) : Attack := b.modifying.2.getD b.built

/-- What the pipeline makes of the attack. -/
def strike (arena : Arena σ) (b : Blow σ) : Strike σ :=
  let clash : Clash :=
    ⟨b.announced.combatants.get b.side, some (b.announced.combatants.get b.side.opposite)⟩
  (arena.pipelines.get b.side).process clash ⟨b.modified, b.announced.rng, b.announced.memory⟩

def settled (arena : Arena σ) (b : Blow σ) : Attack := (b.strike arena).attack

def judged (arena : Arena σ) (b : Blow σ) : Fight σ :=
  { b.announced with rng := (b.strike arena).rng, memory := (b.strike arena).memory }

/-- The fight when the damage has been dealt. -/
def struck (arena : Arena σ) (b : Blow σ) : Fight σ :=
  let combatants := (b.judged arena).combatants
  { b.judged arena with
    combatants := combatants.modify b.side.opposite (·.takeDamage (b.settled arena).damage) }

/-- The HP that the damage has left to the defender. -/
def defenderHp (arena : Arena σ) (b : Blow σ) : Float32 :=
  ((b.struck arena).combatants.get b.side.opposite).currentHp

/-- The fight when the effects after the damage have run and the attack is counted. -/
def resolved (arena : Arena σ) (b : Blow σ) : Fight σ :=
  let damage := (b.settled arena).damage
  let m := (b.struck arena).attackMoment .damageApplied b.side (b.settled arena) damage
  let f := ((b.struck arena).traverse m none).1
  { f with counters := f.counters.record b.side }

/-- The events of the attack, each with the fight in which it is emitted. -/
def told (arena : Arena σ) (b : Blow σ) : List (Event × Fight σ) :=
  [(.beforeAttack b.side b.number b.modified, b.announced),
    (.afterAttack b.side b.number (b.settled arena), b.judged arena),
    (.damageApplied b.side b.side.opposite (b.settled arena) (b.settled arena).damage
      (b.defenderHp arena), b.struck arena)]

def events (arena : Arena σ) (b : Blow σ) : List Event := (b.told arena).map (·.1)

/-- An attack is resolved by the course of its blow. -/
theorem resolveAttack_eq (arena : Arena σ) (f : Fight σ) (side : Side) :
    f.resolveAttack arena side =
      ((⟨side, f⟩ : Blow σ).events arena, (⟨side, f⟩ : Blow σ).resolved arena) :=
  rfl

/-- Up to the damage, an attack does not touch the combatants. -/
theorem announced_combatants (b : Blow σ) : b.announced.combatants = b.fight.combatants :=
  Fight.traverse_combatants rfl b.fight (some b.built)

end Blow

end Masquerade
