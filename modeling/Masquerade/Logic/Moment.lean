import Masquerade.Attack

/-!
# Moments

The logic of a material is walked at fixed moments of a round: when the material is bound, at the
start and the end of a battle, twice for every attack, and when growth is settled. A `Moment` says
which phase it is and what is known then. It is a snapshot: nothing written during a walk changes
it.
-/

namespace Masquerade

/-- The phase of a round that a walk stands for. -/
inductive Phase where
  | bind
  | battleStart
  | attackModify
  | damageApplied
  | battleEnd
  | persistentGrowth
  /-- Only a text is made; nothing is done. -/
  | description
  deriving DecidableEq

namespace Phase

/-- The name of the phase in running text. -/
def label : Phase → String
  | bind => "binding"
  | battleStart => "battle start"
  | attackModify => "attack resolution"
  | damageApplied => "after damage"
  | battleEnd => "battle end"
  | persistentGrowth => "growth settlement"
  | description => "description"

/-- The spelling in content files. -/
def name : Phase → String
  | bind => "bind"
  | battleStart => "battle_start"
  | attackModify => "attack_modify"
  | damageApplied => "damage_applied"
  | battleEnd => "battle_end"
  | persistentGrowth => "persistent_growth"
  | description => "description"

instance : Named Phase :=
  ⟨[bind, battleStart, attackModify, damageApplied, battleEnd, persistentGrowth, description], name⟩

/-- Whether the phase belongs to a single attack. -/
def isAttackPhase : Phase → Bool
  | attackModify | damageApplied => true
  | _ => false

end Phase

/-- How many attacks each side has landed in the battle so far. -/
abbrev HitCounts := PerSide UInt32

/-- The hits a side has taken: the attacks landed by the other side. -/
def PerSide.receivedBy (hits : HitCounts) (side : Side) : UInt32 := hits.get side.opposite

/-- What is known at one moment of a round. -/
structure Moment where
  phase : Phase
  attacker : Option Side := none
  defender : Option Side := none
  /-- The number of the attack among all attacks of the battle, counted from one; after a battle, the
  number of its attacks. Zero when there is none. -/
  actionNumber : UInt32 := 0
  /-- The number of the attack among the attacker's own attacks, counted from one. -/
  attackNumber : UInt32 := 0
  /-- The attacks landed so far, if a battle is going on. -/
  hits : Option HitCounts := none
  /-- The attack as it stood when the phase began. -/
  attack : Option Attack := none
  /-- The masks that contribute to the battle. -/
  maskCount : UInt32 := 0
  /-- The damage that the attack has done. -/
  damage : Float32 := 0
  deriving DecidableEq

/-- A moment of an attack; the defender is the attacker's opposite. -/
def Moment.ofAttack (phase : Phase) (attacker : Side) (actionNumber attackNumber : UInt32) :
    Moment where
  phase := phase
  attacker := some attacker
  defender := some attacker.opposite
  actionNumber := actionNumber
  attackNumber := attackNumber

/-- Which side's attacks a node of the logic takes part in. -/
inductive SideFilter where
  | both
  | player
  | enemy
  deriving DecidableEq

namespace SideFilter

/-- The spelling in content files. -/
def name : SideFilter → String
  | both => "both"
  | player => "player"
  | enemy => "enemy"

instance : Named SideFilter := ⟨[both, player, enemy], name⟩

/-- Whether the node takes part in the moment. The filter looks at attacks only: in any other phase
every node takes part. -/
def admits (f : SideFilter) (m : Moment) : Bool :=
  if m.phase.isAttackPhase then
    match f with
    | both => true
    | player => m.attacker = some .player
    | enemy => m.attacker = some .enemy
  else
    true

end SideFilter

end Masquerade
