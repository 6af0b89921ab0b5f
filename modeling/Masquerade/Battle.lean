import Masquerade.Battle.Fight
import Masquerade.Error

/-!
# Battles

A `Battle` outlives its fights: random words, pipelines and what their steps remember go on from one
fight to the next, and everything else begins anew with each start. `start` refuses while a fight is
under way and when there is no enemy. `tick` and `stop` do nothing outside a fight.
-/

namespace Masquerade

open RandomWords (Stream)

/-- What a fight needs to start. -/
structure BattleSetup where
  player : Profile
  enemy : Option Profile
  /-- The forests in play, in the order in which they are walked. -/
  forests : List Forest
  maskCount : UInt32

/-- What a battle leaves behind. -/
structure BattleReport where
  /-- Missing when the battle was stopped before a side fell. -/
  outcome : Option Outcome
  combatants : Option (PerSide Combatant)
  counters : BattleCounters
  elapsedSecs : Float32

/-- The place of fights, and the fight in it. -/
structure Battle (σ : Type) where
  arena : Arena σ
  stage : Stage σ

namespace Stage

variable {σ : Type}

/-- The random words that are left. -/
def rng : Stage σ → Stream
  | idle rng _ => rng
  | fighting f | ended f _ => f.rng

/-- What the steps of the pipelines remember. -/
def memory : Stage σ → σ
  | idle _ memory => memory
  | fighting f | ended f _ => f.memory

/-- The fight under way, or the last one. -/
def fight? : Stage σ → Option (Fight σ)
  | idle _ _ => none
  | fighting f | ended f _ => some f

/-- How the last fight ended. -/
def outcome? : Stage σ → Option Outcome
  | ended _ outcome => outcome
  | _ => none

end Stage

namespace Battle

variable {σ : Type}

/-- A battle before its first fight. -/
def new (ruleset : Ruleset) (memory : σ) : Battle σ :=
  ⟨⟨ruleset, .both .empty⟩, .idle (.ofSeed ruleset.seed) memory⟩

/-- Whether a fight has ended and no other has begun. -/
def isFinished (b : Battle σ) : Bool :=
  match b.stage with
  | .ended _ _ => true
  | _ => false

/-- Starts a fight. Pipelines without a finalizing step get the built-in one. -/
def start (b : Battle σ) (setup : BattleSetup) : Except GameError (List Event × Battle σ) :=
  match b.stage, setup.enemy with
  | .fighting _, _ => .error .battleInProgress
  | _, none => .error .missingEnemy
  | stage, some enemy =>
    let f := Fight.opening setup.player enemy setup.forests setup.maskCount stage.rng stage.memory
    let builtIn := (FinalDamage.ofRuleset b.arena.ruleset).step σ
    let pipelines := b.arena.pipelines.mapSides fun _ p => p.ensureFinalizer builtIn
    .ok ([.entered setup.player.name enemy.name, .started],
      ⟨{ b.arena with pipelines := pipelines }, .fighting f⟩)

/-- Moves a fight on by a step of real time. -/
def tick (b : Battle σ) (dt : Float32) : List Event × Battle σ :=
  match b.stage with
  | .fighting f =>
    let (events, stage) := f.tick b.arena dt
    (events, { b with stage := stage })
  | _ => ([], b)

/-- Ends a fight without an outcome. -/
def stop (b : Battle σ) : Battle σ :=
  match b.stage with
  | .fighting f => { b with stage := .ended f none }
  | _ => b

/-! ## Pipelines -/

/-- Adds a step to one side's pipeline, unless it has the finalizer's name. -/
def addStep? (b : Battle σ) (side : Side) (step : Step σ) : Option (Battle σ) :=
  ((b.arena.pipelines.get side).addStep? step).map fun p =>
    { b with arena := { b.arena with pipelines := b.arena.pipelines.set side p } }

/-- Installs the finalizing step of one side's pipeline. -/
def setFinalizer (b : Battle σ) (side : Side) (step : Step σ) : Battle σ :=
  let pipelines := b.arena.pipelines.modify side (·.setFinalizer step)
  { b with arena := { b.arena with pipelines := pipelines } }

/-! ## Views -/

/-- The attacks of the last fight. -/
def counters (b : Battle σ) : BattleCounters := (b.stage.fight?.map (·.counters)).getD {}

/-- The battle clock of the last fight, in seconds. -/
def elapsed (b : Battle σ) : Float32 := (b.stage.fight?.map (·.clock)).getD 0

/-- The gauge of one side. -/
def gauge (b : Battle σ) (side : Side) : Gauge := (b.stage.fight?.map (·.gauges.get side)).getD {}

/-- The combatant of one side. -/
def combatant? (b : Battle σ) (side : Side) : Option Combatant :=
  b.stage.fight?.map (·.combatants.get side)

/-- What a display shows of one side. -/
def view? (b : Battle σ) (side : Side) : Option CombatantView :=
  (b.combatant? side).map fun c =>
    c.view ((b.gauge side).value / b.arena.ruleset.speedThreshold)

/-- What the battle leaves behind. -/
def report (b : Battle σ) : BattleReport where
  outcome := b.stage.outcome?
  combatants := b.stage.fight?.map (·.combatants)
  counters := b.counters
  elapsedSecs := b.elapsed

end Battle

end Masquerade
