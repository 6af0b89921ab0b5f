import Masquerade.Json
import Masquerade.Runner.Play

/-!
# Reports of the runner

The result of the runner as a JSON text, with the fields in a fixed order, or as running text.
-/

namespace Masquerade

open Decimal (fixed)

/-! ## JSON -/

/-- A quantity; one that is not finite has no JSON number. -/
def Json.ofSingle (x : Float32) : Json :=
  match Decimal.report? x with
  | some text => .number text
  | none => .null

/-- A natural number. -/
def Json.ofNat (n : Nat) : Json := .number (toString n)

/-- A signed whole number. -/
def Json.ofInt32 (n : Int32) : Json := .number (toString n.toInt)

/-- The nine stats. -/
def Stats.toJson (s : Stats) : Json :=
  .object [
    ("max_hp", .ofSingle s.maxHp),
    ("attack", .ofSingle s.attack),
    ("defense", .ofSingle s.defense),
    ("crit_chance", .ofSingle s.critChance),
    ("crit_multiplier", .ofSingle s.critMultiplier),
    ("speed_rate", .ofInt32 s.speedRate),
    ("luck", .ofInt32 s.luck),
    ("penetration_flat", .ofSingle s.penetrationFlat),
    ("penetration_percent", .ofSingle s.penetrationPercent)]

/-- A combatant. -/
def Combatant.toJson (c : Combatant) : Json :=
  .object [
    ("name", .string c.name),
    ("max_hp", .ofSingle c.maxHp),
    ("current_hp", .ofSingle c.currentHp),
    ("attack", .ofSingle c.attack),
    ("defense", .ofSingle c.defense),
    ("crit_chance", .ofSingle c.critChance),
    ("crit_multiplier", .ofSingle c.critMultiplier),
    ("speed_rate", .ofInt32 c.speedRate),
    ("penetration_flat", .ofSingle c.penetrationFlat),
    ("penetration_percent", .ofSingle c.penetrationPercent)]

/-- What a battle has left behind. -/
def BattleReport.toJson (r : BattleReport) : Json :=
  let combatants (cs : PerSide Combatant) : Json :=
    .object [("player", cs.player.toJson), ("enemy", cs.enemy.toJson)]
  .object [
    ("outcome", (r.outcome.map fun o => Json.string o.label).getD .null),
    ("combatants", (r.combatants.map combatants).getD .null),
    ("counters", .object [
      ("actions", .ofNat r.counters.actions.toNat),
      ("player_attacks", .ofNat r.counters.attacks.player.toNat),
      ("enemy_attacks", .ofNat r.counters.attacks.enemy.toNat)]),
    ("elapsed_secs", .ofSingle r.elapsedSecs)]

/-- What settling a battle brought. -/
def Settlement.toJson (s : Settlement) : Json :=
  .object [
    ("round", .ofNat s.round.toNat),
    ("growth", s.growth.toJson),
    ("rewards", .array (s.rewards.map .string))]

/-- A round that was fought and settled. -/
def RoundSummary.toJson (r : RoundSummary) : Json :=
  .object [
    ("enemy", .string r.enemy),
    ("report", r.report.toJson),
    ("settlement", r.settlement.toJson)]

/-- The word for how a battle ended. -/
def BattleReport.outcomeText (r : BattleReport) : String :=
  (r.outcome.map Outcome.label).getD "Stopped"

namespace Runner.Result

/-- The whole result. The enemy is left out when none was asked for. -/
def toJson (r : Result) : Json :=
  let enemy := (r.enemy.map fun name => ("enemy", Json.string name)).toList
  .object ([("seed", .ofNat r.seed.toNat)] ++ enemy ++ [
    ("rounds", .array (r.rounds.map RoundSummary.toJson)),
    ("final_stats", r.finalStats.toJson)])

/-! ## Running text -/

/-- The lines of one round. -/
def roundLines (r : RoundSummary) : List String :=
  let secs := fixed 1 r.report.elapsedSecs
  let head := s!"Round {r.settlement.round.toNat} vs {r.enemy}: {r.report.outcomeText}"
  let rewards := ", ".intercalate r.settlement.rewards
  [s!"{head} in {r.report.counters.actions.toNat} actions ({secs}s)",
    s!"  Growth: {r.settlement.growth.growthText}"] ++
    if r.settlement.rewards.isEmpty then [] else [s!"  Rewards: {rewards}"]

/-- The lines of the whole result. -/
def lines (r : Result) : List String :=
  let head :=
    match r.enemy with
    | some enemy => s!"Seed: {r.seed.toNat}  Enemy: {enemy}"
    | none => s!"Seed: {r.seed.toNat}"
  let stats := r.finalStats
  let hp := fixed 0 stats.maxHp
  let attack := fixed 1 stats.attack
  let defense := fixed 1 stats.defense
  let crit := fixed 0 (stats.critChance * 100)
  let speed := stats.speedRate.toInt
  ["=== BATTLE RUNNER ===", head, ""] ++ r.rounds.flatMap roundLines ++
    ["", s!"Final: HP {hp}  ATK {attack}  DEF {defense}  CRIT {crit}%  SPD {speed}"]

/-- The result in the format that is asked for: JSON, or running text for any other format. -/
def render (r : Result) (format : String) : String :=
  if format = "json" then
    r.toJson.pretty ++ "\n"
  else
    String.join (r.lines.map (· ++ "\n"))

end Runner.Result

end Masquerade
