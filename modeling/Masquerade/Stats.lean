import Masquerade.Decimal.Text
import Masquerade.Single
import Masquerade.Side

/-!
# Stats and growth

A `Stats` value has one entry for each of the nine stats. The same shape serves for the player's
standing stats, which `clamped` keeps in their domains, and for a growth delta, whose entries are
signed changes collected over a round and added to the standing stats at its end (`grown`). Speed
and luck are whole numbers, so changes of them are rounded.
-/

namespace Masquerade

/-- Every stat that an effect can address. -/
inductive Stat where
  | maxHp
  | attack
  | defense
  | critChance
  | critMultiplier
  | speedRate
  | luck
  | penetrationFlat
  | penetrationPercent
  deriving DecidableEq

namespace Stat

/-- The stats in the order of listings. -/
def all : List Stat :=
  [maxHp, attack, defense, critChance, critMultiplier, speedRate, luck, penetrationFlat,
    penetrationPercent]

/-- The name of the stat in running text. -/
def label : Stat → String
  | maxHp => "max HP"
  | attack => "attack"
  | defense => "defense"
  | critChance => "crit chance"
  | critMultiplier => "crit multiplier"
  | speedRate => "speed"
  | luck => "luck"
  | penetrationFlat => "flat penetration"
  | penetrationPercent => "penetration %"

/-- The spelling of the stat in content files. -/
def name : Stat → String
  | maxHp => "max_hp"
  | attack => "attack"
  | defense => "defense"
  | critChance => "crit_chance"
  | critMultiplier => "crit_multiplier"
  | speedRate => "speed_rate"
  | luck => "luck"
  | penetrationFlat => "penetration_flat"
  | penetrationPercent => "penetration_percent"

instance : Named Stat := ⟨all, name⟩

/-- Whether the stat is a whole number, so that changes of it are rounded. -/
def isWhole : Stat → Bool
  | speedRate | luck => true
  | _ => false

end Stat

/-- One entry for each stat. -/
structure Stats where
  maxHp : Float32
  attack : Float32
  defense : Float32
  critChance : Float32
  critMultiplier : Float32
  speedRate : Int32
  luck : Int32
  penetrationFlat : Float32
  penetrationPercent : Float32
  deriving DecidableEq

namespace Stats

/-- The stats of a player of whom nothing else is said. -/
def starting : Stats where
  maxHp := 80
  attack := 12
  defense := 3
  critChance := 0.1
  critMultiplier := 1.5
  speedRate := 6
  luck := 20
  penetrationFlat := 0
  penetrationPercent := 0

/-- All entries zero: the growth delta that changes nothing. -/
def zero : Stats := ⟨0, 0, 0, 0, 0, 0, 0, 0, 0⟩

/-- The entry of one stat, whole numbers rounded to binary32. -/
def get (s : Stats) : Stat → Float32
  | .maxHp => s.maxHp
  | .attack => s.attack
  | .defense => s.defense
  | .critChance => s.critChance
  | .critMultiplier => s.critMultiplier
  | .speedRate => s.speedRate.toSingle
  | .luck => s.luck.toSingle
  | .penetrationFlat => s.penetrationFlat
  | .penetrationPercent => s.penetrationPercent

/-! ## Standing stats -/

/-- Every stat moved back into its domain. -/
def clamped (s : Stats) : Stats where
  maxHp := s.maxHp.atLeast 1
  attack := s.attack.atLeast 0
  defense := s.defense.atLeast 0
  critChance := s.critChance.within 0 1
  critMultiplier := s.critMultiplier.atLeast 1
  speedRate := max s.speedRate 0
  luck := min (max s.luck 0) 100
  penetrationFlat := s.penetrationFlat.atLeast 0
  penetrationPercent := s.penetrationPercent.within 0 1

/-- The stats after a growth delta: entries added one by one and moved back into their domains. -/
def grown (s growth : Stats) : Stats :=
  clamped {
    maxHp := s.maxHp + growth.maxHp
    attack := s.attack + growth.attack
    defense := s.defense + growth.defense
    critChance := s.critChance + growth.critChance
    critMultiplier := s.critMultiplier + growth.critMultiplier
    speedRate := s.speedRate.addSaturating growth.speedRate
    luck := s.luck.addSaturating growth.luck
    penetrationFlat := s.penetrationFlat + growth.penetrationFlat
    penetrationPercent := s.penetrationPercent + growth.penetrationPercent }

/-! ## Growth deltas -/

/-- Adds `amount` to the entry of one stat; for a whole-number stat the amount is rounded first. -/
def add (s : Stats) (stat : Stat) (amount : Float32) : Stats :=
  match stat with
  | .maxHp => { s with maxHp := s.maxHp + amount }
  | .attack => { s with attack := s.attack + amount }
  | .defense => { s with defense := s.defense + amount }
  | .critChance => { s with critChance := s.critChance + amount }
  | .critMultiplier => { s with critMultiplier := s.critMultiplier + amount }
  | .speedRate => { s with speedRate := s.speedRate.addSaturating amount.roundToInt32 }
  | .luck => { s with luck := s.luck.addSaturating amount.roundToInt32 }
  | .penetrationFlat => { s with penetrationFlat := s.penetrationFlat + amount }
  | .penetrationPercent => { s with penetrationPercent := s.penetrationPercent + amount }

/-- Adds a list of amounts, one after the other. -/
def addAll (s : Stats) (amounts : List (Stat × Float32)) : Stats :=
  amounts.foldl (fun s a => s.add a.1 a.2) s

/-- Every entry multiplied by `factor`, whole-number entries rounded. -/
def scaled (s : Stats) (factor : Float32) : Stats :=
  Stat.all.foldl (fun out stat => out.add stat (s.get stat * factor)) zero

/-- Whether no entry differs from zero. -/
def isZero (s : Stats) : Bool :=
  Stat.all.all fun stat => s.get stat == 0

/-- The entries that differ from zero as signed changes. -/
def growthText (s : Stats) : String :=
  let changed := Stat.all.filter fun stat => !(s.get stat == 0)
  if changed.isEmpty then
    "no growth"
  else
    ", ".intercalate (changed.map fun stat => stat.label ++ " " ++ Decimal.signed (s.get stat))

end Stats

/-- The player's permanent record: the stats of the beginning and the stats of now. -/
structure PlayerRecord where
  name : String
  base : Stats
  actual : Stats

namespace PlayerRecord

/-- A record that begins with the given stats, moved into their domains. -/
def new (name : String) (stats : Stats) : PlayerRecord :=
  ⟨name, stats.clamped, stats.clamped⟩

/-- Adds a growth delta to the stats of now. -/
def grown (r : PlayerRecord) (growth : Stats) : PlayerRecord :=
  { r with actual := r.actual.grown growth }

end PlayerRecord

/-- How a collected growth delta lands on the record. -/
inductive Commit where
  /-- As collected. -/
  | direct
  /-- With every entry multiplied by a fixed factor. -/
  | scaled (factor : Float32)

/-- Adds a collected growth delta to the record. -/
def Commit.apply (commit : Commit) (r : PlayerRecord) (growth : Stats) : PlayerRecord :=
  match commit with
  | direct => r.grown growth
  | scaled factor => r.grown (growth.scaled factor)

end Masquerade
