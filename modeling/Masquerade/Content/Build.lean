import Masquerade.Content.Draft

/-!
# Building materials

Building turns the draft of a material into its forest. The shared behaviors come first, in the order
of their names; then each tree of nodes, every node before those below it. A node that refers to a
shared behavior names the one entry in the table of behaviors; a reference to a name that nobody has
declared leaves a node that only groups.
-/

namespace Masquerade

/-- The behavior that is written down as a gate or an effect, if either is. -/
def writtenBehavior (gate : Option GateDraft) (effect : Option EffectDraft) (invert : Bool) :
    Except BehaviorFlaw (Option Behavior) :=
  match gate, effect with
  | some _, some _ => .error .gateAndEffect
  | some gate, none => .ok (some (.gate ⟨gate.condition, invert⟩))
  | none, some effect =>
    if invert then .error .invertedEffect else .ok (some (.effect effect.effect))
  | none, none => .ok none

/-- The positions of the shared behaviors by their names. -/
abbrev SharedHandles := List (String × Nat)

/-- Enters the shared behaviors of a material. One with nothing written down is left out. -/
def enterShared (material : String) :
    List (String × SharedDraft) → SharedHandles → Forest → Except GameError (SharedHandles × Forest)
  | [], handles, F => .ok (handles, F)
  | (name, draft) :: rest, handles, F =>
    match writtenBehavior draft.gate draft.effect draft.invert with
    | .error flaw => .error (.sharedBehavior material name flaw)
    | .ok none => enterShared material rest handles F
    | .ok (some behavior) =>
      let (handle, F) := F.addBehavior behavior
      enterShared material rest (handles ++ [(name, handle)]) F

/-- Whether a node names more than one of a gate, an effect and a shared behavior. -/
def NodeDraft.isCrowded (d : NodeDraft) : Bool :=
  1 < ([d.gate.isSome, d.effect.isSome, d.shared.isSome].filter id).length

/-- Finds or enters the behavior of a node: its position, and the forest that has it. -/
def enterBehavior (material : String) (handles : SharedHandles) (d : NodeDraft) (F : Forest) :
    Except GameError (Option Nat × Forest) :=
  if d.isCrowded then
    .error (.crowdedNode material)
  else
    match d.shared with
    | some name => .ok (handles.lookup name, F)
    | none =>
      match writtenBehavior d.gate d.effect d.invert with
      | .error flaw => .error (.nodeBehavior material flaw)
      | .ok none => .ok (none, F)
      | .ok (some behavior) =>
        let (handle, F) := F.addBehavior behavior
        .ok (some handle, F)

/-- A change of a forest as a step of building. -/
def orRefuse {α : Type} : Forest.Edited α → Except GameError (α × Forest)
  | (.ok a, F) => .ok (a, F)
  | (.error e, _) => .error (.node e)

/-- Makes the node of a draft, with its title and side filter but nothing below it. -/
def enterNode (material : String) (handles : SharedHandles) (parent : Option Nat) (d : NodeDraft)
    (F : Forest) : Except GameError (Nat × Forest) := do
  let (behavior, F) ← enterBehavior material handles d F
  let (id, F) ← orRefuse (F.addNode parent behavior)
  let F ←
    match d.title with
    | some title => (·.2) <$> orRefuse (F.setTitle id title)
    | none => pure F
  let ((), F) ← orRefuse (F.setSide id d.side)
  return (id, F)

mutual

/-- Makes the tree of a draft below `parent`, or as a root. -/
def enterTree (material : String) (handles : SharedHandles) (parent : Option Nat) :
    NodeDraft → Forest → Except GameError Forest
  | .mk title side gate effect shared invert children, F => do
    let d : NodeDraft := .mk title side gate effect shared invert []
    let (id, F) ← enterNode material handles parent d F
    enterTrees material handles (some id) children F

/-- Makes the trees of several drafts, one after the other. -/
def enterTrees (material : String) (handles : SharedHandles) (parent : Option Nat) :
    List NodeDraft → Forest → Except GameError Forest
  | [], F => .ok F
  | d :: rest, F => do
    let F ← enterTree material handles parent d F
    enterTrees material handles parent rest F

end

/-- Builds the material of a draft. -/
def MaterialDraft.build (d : MaterialDraft) : Except GameError Material := do
  let (handles, F) ← enterShared d.id d.shared [] (.empty d.name)
  let forest ← enterTrees d.id handles none d.nodes F
  return {
    id := d.id
    name := d.name
    manaCost := d.manaCost
    quality := d.quality
    shelfLifeTurns := max d.shelfLifeTurns 1
    forest := forest }

end Masquerade
