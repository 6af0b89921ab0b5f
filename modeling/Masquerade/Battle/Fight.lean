import Masquerade.Battle.Event
import Masquerade.Logic.Walk
import Masquerade.Pipeline

/-!
# Fights

A `Fight` is a battle under way: the two combatants, the forests in play and what has been counted.
It advances in ticks of real time. A tick fills each side's gauge in proportion to its speed; a side
attacks when its gauge holds a full threshold and its pause after the last attack is over. The
player's side is tried first. When a side has fallen, the fight is concluded in the same tick. What
stays fixed while a fight goes on, the tuning and the pipelines, is its `Arena`.
-/

namespace Masquerade

open RandomWords (Stream)

/-- How far a side is from its next attack. -/
structure Gauge where
  value : Float32 := 0
  /-- The time of the battle clock before which the side may not attack again. -/
  nextAttackAt : Float32 := 0
  deriving DecidableEq

/-- The attacks whose effects have all run. -/
structure BattleCounters where
  actions : UInt32 := 0
  attacks : HitCounts := .both 0
  deriving DecidableEq

/-- Counts one more attack of a side. -/
def BattleCounters.record (c : BattleCounters) (side : Side) : BattleCounters :=
  ⟨c.actions + 1, c.attacks.modify side (· + 1)⟩

/-- What stays fixed while a fight goes on. -/
structure Arena (σ : Type) where
  ruleset : Ruleset
  pipelines : PerSide (Pipeline σ)

/-- A battle under way, or as its end left it. -/
structure Fight (σ : Type) where
  combatants : PerSide Combatant
  forests : List Forest
  maskCount : UInt32
  gauges : PerSide Gauge := .both {}
  counters : BattleCounters := {}
  clock : Float32 := 0
  rng : Stream
  /-- What the steps of the pipelines remember. -/
  memory : σ

/-- The stages of a battle's life. A battle that was stopped has ended without an outcome. -/
inductive Stage (σ : Type) where
  | idle (rng : Stream) (memory : σ)
  | fighting (fight : Fight σ)
  | ended (fight : Fight σ) (outcome : Option Outcome)

namespace Fight

variable {σ : Type}

/-- Walks all forests in play at a moment; an attack in flight is handed over and back. -/
def traverse (f : Fight σ) (m : Moment) (attack : Option Attack) : Fight σ × Option Attack :=
  let targets : Targets := { attack := attack, combatants := some f.combatants }
  let (forests, targets, rng) := Forest.runAll f.forests m targets f.rng
  let combatants := targets.combatants.getD f.combatants
  ({ f with forests := forests, combatants := combatants, rng := rng }, targets.attack)

/-- A moment of the fight outside attacks. -/
def moment (f : Fight σ) (phase : Phase) (actions : UInt32) : Moment where
  phase := phase
  actionNumber := actions
  hits := some f.counters.attacks
  maskCount := f.maskCount

/-- A moment of the attack that `side` makes next, with the numbers of that attack. -/
def attackMoment (f : Fight σ) (phase : Phase) (side : Side) (attack : Attack) (damage : Float32) :
    Moment :=
  let attackNumber := f.counters.attacks.get side + 1
  { Moment.ofAttack phase side (f.counters.actions + 1) attackNumber with
    hits := some f.counters.attacks
    attack := some attack
    maskCount := f.maskCount
    damage := damage }

/-- An attack of `side`: effects on the attack, its pipeline, the damage, the effects after the damage,
and the count. -/
def resolveAttack (arena : Arena σ) (f : Fight σ) (side : Side) : List Event × Fight σ :=
  let number := f.counters.actions + 1
  let built := Attack.ofAttacker (f.combatants.get side)
  let (f, modified) := f.traverse (f.attackMoment .attackModify side built 0) (some built)
  let modified := modified.getD built
  let clash : Clash := ⟨f.combatants.get side, some (f.combatants.get side.opposite)⟩
  let strike := (arena.pipelines.get side).process clash ⟨modified, f.rng, f.memory⟩
  let damage := strike.attack.damage
  let combatants := f.combatants.modify side.opposite (·.takeDamage damage)
  let defenderHp := (combatants.get side.opposite).currentHp
  let f := { f with combatants := combatants, rng := strike.rng, memory := strike.memory }
  let (f, _) := f.traverse (f.attackMoment .damageApplied side strike.attack damage) none
  ([.beforeAttack side number modified, .afterAttack side number strike.attack,
      .damageApplied side side.opposite strike.attack damage defenderHp],
    { f with counters := f.counters.record side })

/-- Whether `side` can attack now. -/
def isReady (arena : Arena σ) (f : Fight σ) (side : Side) : Bool :=
  let gauge := f.gauges.get side
  !(gauge.value < arena.ruleset.speedThreshold || f.clock < gauge.nextAttackAt)

/-- Spends one threshold of `side`'s gauge and starts its pause. -/
def spendGauge (arena : Arena σ) (f : Fight σ) (side : Side) : Fight σ :=
  let spent (gauge : Gauge) : Gauge :=
    ⟨gauge.value - arena.ruleset.speedThreshold, f.clock + arena.ruleset.attackIntervalSecs⟩
  { f with gauges := f.gauges.modify side spent }

/-- Whether the end of the fight is a victory. -/
def outcome (f : Fight σ) : Outcome :=
  if !f.combatants.player.isDead && f.combatants.enemy.isDead then .victory else .defeat

/-- Ends the fight: the effects of the battle's end run, and then the outcome is read. -/
def conclude (f : Fight σ) : List Event × Stage σ :=
  let (f, _) := f.traverse (f.moment .battleEnd f.counters.actions) none
  ([.ended f.counters.actions, f.outcome.event], .ended f (some f.outcome))

/-- Moves the clock on and fills the gauges. -/
def advance (f : Fight σ) (dt : Float32) : Fight σ :=
  let filled (side : Side) (gauge : Gauge) : Gauge :=
    { gauge with value := gauge.value + (f.combatants.get side).speedRate.toSingle * dt }
  { f with clock := f.clock + dt, gauges := f.gauges.mapSides filled }

/-- Lets each of the sides attack that is ready, in turn. A fight that an attack has decided is
concluded at once. -/
def attackInTurn (arena : Arena σ) (f : Fight σ) : List Side → List Event × Stage σ
  | [] => ([], .fighting f)
  | side :: rest =>
    if f.isReady arena side then
      let (events, f) := (f.spendGauge arena side).resolveAttack arena side
      let (later, stage) :=
        if f.combatants.isDecided then f.conclude else attackInTurn arena f rest
      (events ++ later, stage)
    else
      attackInTurn arena f rest

/-- The part of a time step that counts: steps that are not finite or go backwards count for nothing. -/
def timeStep (dt : Float32) : Float32 :=
  if dt.isFinite then dt.atLeast 0 else 0

/-- One tick. A fight that is decided before any attack is concluded without one. -/
def tick (arena : Arena σ) (f : Fight σ) (dt : Float32) : List Event × Stage σ :=
  if f.combatants.isDecided then
    f.conclude
  else
    (f.advance (timeStep dt)).attackInTurn arena Side.order

/-- Brings two combatants and the forests together and runs the effects of the battle's start. Every
counter of the forests is set to zero first. -/
def opening (player enemy : Profile) (forests : List Forest) (maskCount : UInt32) (rng : Stream)
    (memory : σ) : Fight σ :=
  let f : Fight σ := {
    combatants := ⟨.ofProfile player, .ofProfile enemy⟩
    forests := forests.map (·.reset)
    maskCount := maskCount
    rng := rng
    memory := memory }
  (f.traverse (f.moment .battleStart 0) none).1

end Fight

end Masquerade
