import Masquerade.Single

/-!
# Tuning of the game

A `Ruleset` holds the tuning numbers of battles and of the rounds around them. Whoever needs it is
handed it explicitly. `Ruleset.flaw?` names the first number, in a fixed order, that no battle can
be fought with.
-/

namespace Masquerade

/-- The tuning numbers of battles and rounds. -/
structure Ruleset where
  /-- The gauge value that an attack costs; values below one count as one. -/
  arenaSpeedThreshold : UInt32 := 10
  /-- The shortest time between two attacks of one side, in seconds. -/
  attackIntervalSecs : Float32 := 0.25
  /-- Whether the defender's effective defense is taken off the attack. -/
  defenseReduction : Bool := true
  /-- Whether critical hits are rolled for. -/
  critEnabled : Bool := true
  /-- The time step of a battle fought without a display, in seconds. -/
  tickSecs : Float32 := 0.05
  /-- After how many ticks such a battle is stopped without a result. -/
  maxTicks : UInt32 := 20000
  /-- The mana of a new mask. -/
  baseMaskMana : UInt32 := 10
  /-- The seed of the random words. -/
  seed : UInt64 := 0
  deriving DecidableEq

/-- A tuning number that no battle can be fought with. -/
inductive RulesetFlaw where
  | thresholdZero
  | intervalNegative
  | tickNotPositive
  | noTicks
  deriving DecidableEq

/-- What is wrong, in words. -/
def RulesetFlaw.message : RulesetFlaw → String
  | thresholdZero => "arena_speed_threshold must be at least 1"
  | intervalNegative => "attack_interval_secs must be a non-negative number"
  | tickNotPositive => "tick_secs must be positive"
  | noTicks => "max_ticks must be positive"

namespace Ruleset

/-- The gauge value that an attack costs, with the lower bound applied. -/
def speedThreshold (r : Ruleset) : Float32 :=
  (max r.arenaSpeedThreshold 1).toSingle

/-- The first flaw of the tuning numbers. -/
def flaw? (r : Ruleset) : Option RulesetFlaw :=
  if r.arenaSpeedThreshold = 0 then
    some .thresholdZero
  else if !r.attackIntervalSecs.isFinite || r.attackIntervalSecs < 0 then
    some .intervalNegative
  else if !r.tickSecs.isFinite || r.tickSecs ≤ 0 then
    some .tickNotPositive
  else if r.maxTicks = 0 then
    some .noTicks
  else
    none

end Ruleset

end Masquerade
