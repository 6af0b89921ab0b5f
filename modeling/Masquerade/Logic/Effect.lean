import Masquerade.Logic.Moment
import Masquerade.Mana

/-!
# Effects

Attack effects change the attack in flight and work only while an attack is being resolved. All
other effects work in every other phase and change the live combatants, the growth delta, the mana
of a mask or the current HP of a participant. What an effect may change is handed to it in
`Targets`, in which anything can be missing. `Effect.perform?` answers with the changed targets, or
with nothing when it has not written anywhere.
-/

namespace Masquerade

/-- Where an effect reads the stat that it takes a share of. -/
inductive StatSource where
  /-- The player's live stats. -/
  | player
  /-- The enemy's live stats. -/
  | enemy
  /-- The player's permanent stats. -/
  | record
  deriving DecidableEq

namespace StatSource

/-- The name of the source in running text. -/
def label : StatSource → String
  | player => "player"
  | enemy => "enemy"
  | record => "permanent"

/-- The spelling in content files. -/
def name : StatSource → String
  | player => "player"
  | enemy => "enemy"
  | record => "record"

instance : Named StatSource := ⟨[player, enemy, record], name⟩

end StatSource

/-- Which participant of an attack an HP change reaches. -/
inductive HpTarget where
  | attacker
  | defender
  deriving DecidableEq

namespace HpTarget

/-- The spelling in content files. -/
def name : HpTarget → String
  | attacker => "attacker"
  | defender => "defender"

instance : Named HpTarget := ⟨[attacker, defender], name⟩

/-- The name of the participant at the start of a sentence. -/
def label : HpTarget → String
  | attacker => "Attacker"
  | defender => "Defender"

/-- The side of the participant at a moment. -/
def side? (t : HpTarget) (m : Moment) : Option Side :=
  match t with
  | attacker => m.attacker
  | defender => m.defender

end HpTarget

/-- How much an HP change amounts to. -/
inductive HpAdjust where
  | flat (amount : Float32)
  /-- A fraction of the participant's greatest HP. -/
  | fractionOfMax (fraction : Float32)
  deriving DecidableEq

/-- What the logic of a material does. -/
inductive Effect where
  /-- Adds to a number of the attack. -/
  | attackField (field : AttackField) (amount : Float32)
  /-- Adds to a number of the attack, once per mask in play. -/
  | maskCountScale (field : AttackField) (perMask : Float32)
  /-- Adds to stats of one side, or to the growth delta if it is persistent. -/
  | addStats (target : Side) (deltas : List (Stat × Float32)) (heal persistent : Bool)
  /-- Adds a share of one stat to another. -/
  | percentAttach (source : StatSource) (sourceStat : Stat) (target : Side) (targetStat : Stat)
      (percent : Float32) (heal persistent : Bool)
  /-- Refills the mana of the mask that binds the material. -/
  | restoreMana (amount : UInt32)
  /-- Changes the current HP of a participant of the attack. -/
  | adjustHp (target : HpTarget) (adjust : HpAdjust)
  deriving DecidableEq

/-- What effects can change, as far as it is at hand. The permanent stats are only read. -/
structure Targets where
  attack : Option Attack := none
  combatants : Option (PerSide Combatant) := none
  growth : Option Stats := none
  record : Option Stats := none
  mana : Option ManaPool := none
  deriving DecidableEq

/-- The value that a share is taken of, if its source is at hand and has the stat. -/
def Targets.read? (t : Targets) (source : StatSource) (stat : Stat) : Option Float32 :=
  match source with
  | .record => t.record.map (·.get stat)
  | .player => t.combatants.bind (·.player.get? stat)
  | .enemy => t.combatants.bind (·.enemy.get? stat)

namespace Effect

/-- Whether the effect works on the attack in flight. -/
def isAttackEffect : Effect → Bool
  | attackField .. | maskCountScale .. => true
  | _ => false

/-- The change that an effect makes to the targets, without regard to the phase. -/
def write? (e : Effect) (m : Moment) (t : Targets) : Option Targets :=
  match e with
  | attackField field amount =>
    t.attack.map fun a => { t with attack := some (a.add field amount) }
  | maskCountScale field perMask =>
    t.attack.map fun a => { t with attack := some (a.add field (perMask * m.maskCount.toSingle)) }
  | addStats target deltas heal persistent =>
    if persistent then
      t.growth.map fun g => { t with growth := some (g.addAll deltas) }
    else
      t.combatants.map fun cs =>
        { t with combatants := some (cs.modify target (·.addAll deltas heal)) }
  | percentAttach source sourceStat target targetStat percent heal persistent =>
    (t.read? source sourceStat).bind fun value =>
      let amount := value * percent
      if persistent then
        t.growth.map fun g => { t with growth := some (g.add targetStat amount) }
      else
        t.combatants.bind fun cs =>
          ((cs.get target).add? targetStat amount heal).map fun c =>
            { t with combatants := some (cs.set target c) }
  | restoreMana amount =>
    if m.phase = .bind then
      t.mana.map fun pool => { t with mana := some (pool.restore amount) }
    else
      none
  | adjustHp target adjust =>
    (target.side? m).bind fun side =>
      t.combatants.map fun cs =>
        let change (c : Combatant) : Combatant :=
          match adjust with
          | .flat amount => c.addCurrentHp amount
          | .fractionOfMax fraction => c.addCurrentHp (c.maxHp * fraction)
        { t with combatants := some (cs.modify side change) }

/-- Applies the effect at one moment: the changed targets, or nothing if the effect does not work in
this phase or finds nothing to write to. -/
def perform? (e : Effect) (m : Moment) (t : Targets) : Option Targets :=
  if m.phase = .description then
    none
  else if e.isAttackEffect = decide (m.phase = .attackModify) then
    e.write? m t
  else
    none

/-- A list of changes, each a stat and a signed amount. -/
def deltasText (deltas : List (Stat × Float32)) : String :=
  ", ".intercalate (deltas.map fun d => d.1.label ++ " " ++ Decimal.signed d.2)

/-- The effect in words. -/
def describe : Effect → String
  | attackField field amount => (field.label ++ " " ++ Decimal.signed amount).capitalize
  | maskCountScale field perMask =>
    (field.label ++ " " ++ Decimal.signed perMask ++ " per mask in play").capitalize
  | addStats target deltas _ persistent =>
    if persistent then
      "Permanently: " ++ deltasText deltas
    else
      (target.label ++ " " ++ deltasText deltas).capitalize
  | percentAttach source sourceStat target targetStat percent _ persistent =>
    let share := Decimal.fixed 0 (percent * 100)
    let what := s!"{share}% of {source.label} {sourceStat.label}"
    if persistent then
      s!"Permanently add {what} to {targetStat.label}"
    else
      s!"Add {what} to {target.label} {targetStat.label}"
  | restoreMana amount => s!"Restore {amount.toNat} mana when bound"
  | adjustHp target (.flat amount) => target.label ++ " current HP " ++ Decimal.signed amount
  | adjustHp target (.fractionOfMax fraction) =>
    let share := Decimal.fixedWith true 0 (fraction * 100)
    s!"{target.label} current HP {share}% of max HP"

end Effect

end Masquerade
