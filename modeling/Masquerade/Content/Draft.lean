import Masquerade.Material

/-!
# Authored materials

What an author writes down for a material, before it is checked and built: behaviors to be shared by
name, and trees of nodes. A node should name at most one of a gate, an effect and a shared behavior,
and only a gate can be inverted; drafts can break these rules, and building refuses them. Gates and
effects are written in kinds of their own (`GateDraft`, `EffectDraft`), each of which stands for one
condition of a gate or one effect.
-/

namespace Masquerade

/-- An authored gate. -/
inductive GateDraft where
  | phase (phase : Phase)
  | nthAction (n : UInt32)
  | nthAttack (n : UInt32)
  | firstActions (n : UInt32)
  | firstAttacks (n : UInt32)
  | everyActions (n : UInt32)
  | waitEvery (n : UInt32)
  | maxTriggers (n : UInt32)
  | chance (p : Float32)
  | afterHits (target : Side) (hits : UInt32)
  | battleStart
  | battleEnd
  deriving DecidableEq

/-- The condition that an authored gate stands for. -/
def GateDraft.condition : GateDraft → Condition
  | phase p => .phase p
  | nthAction n => .nthAction n
  | nthAttack n => .nthAttack n
  | firstActions n => .firstActions n
  | firstAttacks n => .firstAttacks n
  | everyActions n => .everyActions n
  | waitEvery n => .waitEvery n
  | maxTriggers n => .maxTriggers n
  | chance p => .chance p
  | afterHits target hits => .afterHits target hits
  | battleStart => .battleStart
  | battleEnd => .battleEnd

/-- An authored effect. -/
inductive EffectDraft where
  | attackField (field : AttackField) (amount : Float32)
  | maskCountScale (field : AttackField) (perMask : Float32)
  /-- The changes stand in the order of the stats, with at most one of each stat. -/
  | addStats (target : Side) (stats : List (Stat × Float32)) (heal persistent : Bool)
  | percentAttach (source : StatSource) (sourceStat : Stat) (target : Side) (targetStat : Stat)
      (percent : Float32) (heal persistent : Bool)
  | restoreMana (amount : UInt32)
  | adjustHp (target : HpTarget) (amount : Float32)
  | adjustHpPercent (target : HpTarget) (percent : Float32)
  deriving DecidableEq

/-- The effect that an authored effect stands for. -/
def EffectDraft.effect : EffectDraft → Effect
  | attackField field amount => .attackField field amount
  | maskCountScale field perMask => .maskCountScale field perMask
  | addStats target stats heal persistent => .addStats target stats heal persistent
  | percentAttach source sourceStat target targetStat percent heal persistent =>
    .percentAttach source sourceStat target targetStat percent heal persistent
  | restoreMana amount => .restoreMana amount
  | adjustHp target amount => .adjustHp target (.flat amount)
  | adjustHpPercent target percent => .adjustHp target (.fractionOfMax percent)

/-- An authored behavior that nodes can refer to by name. -/
structure SharedDraft where
  gate : Option GateDraft
  effect : Option EffectDraft
  invert : Bool

/-- An authored node. -/
inductive NodeDraft where
  | mk (title : Option String) (side : SideFilter) (gate : Option GateDraft)
      (effect : Option EffectDraft) (shared : Option String) (invert : Bool)
      (children : List NodeDraft)

namespace NodeDraft

/-- The title, if there is one. -/
def title : NodeDraft → Option String
  | mk title .. => title

/-- Which side's attacks the node takes part in. -/
def side : NodeDraft → SideFilter
  | mk _ side .. => side

/-- The gate written at the node. -/
def gate : NodeDraft → Option GateDraft
  | mk _ _ gate .. => gate

/-- The effect written at the node. -/
def effect : NodeDraft → Option EffectDraft
  | mk _ _ _ effect .. => effect

/-- The name of the shared behavior that the node refers to. -/
def shared : NodeDraft → Option String
  | mk _ _ _ _ shared .. => shared

/-- Whether the gate written at the node is inverted. -/
def invert : NodeDraft → Bool
  | mk _ _ _ _ _ invert _ => invert

/-- The nodes below. -/
def children : NodeDraft → List NodeDraft
  | mk _ _ _ _ _ _ children => children

end NodeDraft

/-- An authored material. -/
structure MaterialDraft where
  id : String
  name : String
  manaCost : UInt32
  quality : Quality
  shelfLifeTurns : UInt32
  /-- The shared behaviors with their names, in the order of the names. -/
  shared : List (String × SharedDraft)
  nodes : List NodeDraft

end Masquerade
