import Masquerade.Proofs.Logic.Lists

/-!
# Refused edits

An edit is refused exactly if the parent or the node that it names is missing (`Forest.refusal?_eq_missing?`).
A refused edit leaves the forest as it was, except that a gate or an effect of its own has already entered the
table of behaviors (`Forest.apply_refused`). So what a sequence of edits makes is also made without a refusal, by
replacing each refused edit by what it leaves (`Forest.foldl_settled`).
-/

namespace Masquerade

namespace Forest

namespace Op

/-- The behavior of its own that an edit enters before it makes a node. -/
def entered? : Op → Option Behavior
  | .addGate _ gate => some (.gate gate)
  | .addEffect _ effect => some (.effect effect)
  | _ => none

/-- What is left of an edit that is refused, as edits that are not. -/
def leavings (op : Op) : List Op := op.entered?.toList.map .addBehavior

end Op

/-- The refusal that a change of a forest answers with. -/
def Edited.refusal? {α : Type} (edited : Edited α) : Option NodeError :=
  match edited.1 with
  | .ok _ => none
  | .error e => some e

/-- The refusal that an operation answers with. -/
def refusal? (F : Forest) : Op → Option NodeError
  | .addNode parent behavior => (F.addNode parent behavior).refusal?
  | .addGate parent gate => (F.addGate parent gate).refusal?
  | .addEffect parent effect => (F.addEffect parent effect).refusal?
  | .addGroup parent title => (F.addGroup parent title).refusal?
  | .setTitle id title => (F.setTitle id title).refusal?
  | .setSide id side => (F.setSide id side).refusal?
  | .addBehavior _ | .run .. | .reset => none

/-- The parent or the node that an operation names and the forest does not have. -/
def missing? (F : Forest) : Op → Option NodeError
  | .addNode parent _ | .addGate parent _ | .addEffect parent _ | .addGroup parent _ =>
    parent.bind fun p => if p < F.size then none else some (.missingParent p F.label)
  | .setTitle id _ | .setSide id _ => if id < F.size then none else some (.missingNode id F.label)
  | .addBehavior _ | .run .. | .reset => none

variable {F : Forest}

/-! ## What one edit does -/

theorem refusal?_addNode (F : Forest) (parent behavior : Option Nat) :
    (F.addNode parent behavior).refusal? =
      parent.bind fun p => if p < F.size then none else some (.missingParent p F.label) := by
  cases parent with
  | none => rfl
  | some p =>
    by_cases there : p < F.size
    · have known : p < F.nodes.size := there
      simp [addNode, known, there, Edited.refusal?]
    · have unknown : ¬ p < F.nodes.size := there
      simp [addNode, unknown, there, Edited.refusal?]

theorem refusal?_modifyNode (F : Forest) (id : Nat) (f : Node → Node)
    (hf : ∀ node, (f node).children = node.children) :
    (F.modifyNode id f hf).refusal? = if id < F.size then none else some (.missingNode id F.label) := by
  rw [modifyNode]
  split <;> rfl

theorem refusal?_addGroup (F : Forest) (parent : Option Nat) (title : String) :
    (F.addGroup parent title).refusal? = (F.addNode parent none).refusal? := by
  rw [addGroup]
  split
  · next made => rw [made, Edited.refusal?, Edited.refusal?]
  · next refused => rw [refused]

/-- An operation is refused exactly if it names what the forest does not have, and the refusal names it. -/
theorem refusal?_eq_missing? (F : Forest) (op : Op) : F.refusal? op = F.missing? op := by
  cases op with
  | addNode parent behavior => exact F.refusal?_addNode parent behavior
  | addGate parent gate => exact refusal?_addNode _ parent _
  | addEffect parent effect => exact refusal?_addNode _ parent _
  | addGroup parent title => exact (F.refusal?_addGroup parent title).trans (F.refusal?_addNode parent none)
  | setTitle id title => exact F.refusal?_modifyNode id _ _
  | setSide id side => exact F.refusal?_modifyNode id _ _
  | addBehavior | run | reset => rfl

theorem addNode_refused {parent behavior : Option Nat} {e : NodeError}
    (refused : (F.addNode parent behavior).refusal? = some e) : (F.addNode parent behavior).2 = F := by
  by_cases there : F.HasPlace parent
  · rw [Edited.refusal?, (listAt_addNode there behavior).1] at refused
    cases refused
  · obtain ⟨_, answered⟩ := addNode_of_not_hasPlace there behavior
    rw [answered]

theorem modifyNode_refused {id : Nat} {f : Node → Node} {hf : ∀ node, (f node).children = node.children}
    {e : NodeError} (refused : (F.modifyNode id f hf).refusal? = some e) :
    (F.modifyNode id f hf).2 = F := by
  rw [modifyNode] at refused ⊢
  split at refused
  · cases refused
  · next missing => rw [if_neg missing]

theorem addGroup_refused {parent : Option Nat} {title : String} {e : NodeError}
    (refused : (F.addGroup parent title).refusal? = some e) : (F.addGroup parent title).2 = F := by
  rw [refusal?_addGroup] at refused
  have kept := addNode_refused refused
  rw [addGroup]
  split
  · next made =>
    rw [made] at refused
    cases refused
  · next answered =>
    rw [answered] at kept
    exact kept

/-- A refused edit leaves the behavior that it has entered, if it has one of its own, and nothing else. -/
theorem apply_refused {op : Op} {e : NodeError} (refused : F.refusal? op = some e) :
    F.apply op = op.leavings.foldl apply F := by
  cases op with
  | addNode parent behavior => exact addNode_refused refused
  | addGate parent gate | addEffect parent effect => exact addNode_refused refused
  | addGroup parent title => exact addGroup_refused refused
  | setTitle id title | setSide id side => exact modifyNode_refused refused
  | addBehavior | run | reset => cases refused

/-! ## What a sequence of edits does -/

/-- A sequence of operations in which those that are refused on their turn are replaced by what they leave. -/
def settled (F : Forest) : List Op → List Op
  | [] => []
  | op :: rest =>
    (match F.refusal? op with
      | none => [op]
      | some _ => op.leavings) ++ (F.apply op).settled rest

/-- None of the operations is refused on its turn. -/
def Accepts (F : Forest) : List Op → Prop
  | [] => True
  | op :: rest => F.refusal? op = none ∧ (F.apply op).Accepts rest

theorem accepts_append {ops later : List Op} :
    F.Accepts (ops ++ later) ↔ F.Accepts ops ∧ (ops.foldl apply F).Accepts later := by
  induction ops generalizing F with
  | nil => exact (and_iff_right trivial).symm
  | cons op rest ih => rw [List.cons_append, Accepts, Accepts, ih, List.foldl_cons, and_assoc]

theorem accepts_leavings (F : Forest) (op : Op) : F.Accepts op.leavings := by
  cases op <;> simp [Op.leavings, Op.entered?, Accepts, refusal?]

theorem foldl_settled (F : Forest) (ops : List Op) :
    (F.settled ops).foldl apply F = ops.foldl apply F := by
  induction ops generalizing F with
  | nil => rfl
  | cons op rest ih =>
    rw [settled, List.foldl_append, List.foldl_cons]
    cases answer : F.refusal? op with
    | none => exact ih (F.apply op)
    | some e =>
      rw [← apply_refused answer]
      exact ih (F.apply op)

theorem accepts_settled (F : Forest) (ops : List Op) : F.Accepts (F.settled ops) := by
  induction ops generalizing F with
  | nil => trivial
  | cons op rest ih =>
    rw [settled, accepts_append]
    cases answer : F.refusal? op with
    | none => exact ⟨⟨answer, trivial⟩, ih (F.apply op)⟩
    | some e =>
      refine ⟨F.accepts_leavings op, ?_⟩
      rw [← apply_refused answer]
      exact ih (F.apply op)

/-- An operation is refused exactly if it names a parent or a node that is missing. A refused operation
leaves the forest as it was, except that a gate or an effect of its own has entered the table of behaviors, where
it takes the first free position, so that of all positions this one alone changes its meaning. Whatever is done to
a forest, refused or not, makes of it what can be made without a refusal, each refused operation replaced by
the behavior that it has entered, if it has entered one. -/
theorem refused_edits (F : Forest) (ops : List Op) :
    (∀ op, F.refusal? op = F.missing? op) ∧
    (∀ op e, F.refusal? op = some e →
      (op.entered? = none → F.apply op = F) ∧
      ∀ b, op.entered? = some b → F.apply op = { F with behaviors := F.behaviors.push b } ∧
        ∀ handle : Nat, (F.apply op).behaviors[handle]? =
          if handle = F.behaviors.size then some b else F.behaviors[handle]?) ∧
    F.Accepts (F.settled ops) ∧ ops.foldl apply F = (F.settled ops).foldl apply F := by
  refine ⟨F.refusal?_eq_missing?, fun op e refused => ⟨fun nothing => ?_, fun b own => ?_⟩,
    F.accepts_settled ops, (F.foldl_settled ops).symm⟩
  · rw [apply_refused refused, Op.leavings, nothing]
    rfl
  · have left : F.apply op = { F with behaviors := F.behaviors.push b } := by
      rw [apply_refused refused, Op.leavings, own]
      rfl
    refine ⟨left, fun handle => ?_⟩
    rw [left]
    exact Array.getElem?_push

/-- A thicket whose only node names a behavior that is not there yet. -/
def thicket : Forest := build "thicket" [.addNode none (some 0)]

/-- Of four refused edits the gate and the effect leave their behaviors, so the thicket is also made by
entering these two. -/
theorem thicket_settled :
    let ops : List Op := [.addGroup (some 9) "leaves", .addGate (some 7) ⟨.battleStart, false⟩,
      .addNode (some 0) none, .setSide 4 .player, .addEffect (some 5) (.restoreMana 2)]
    thicket.refusal? (.setSide 4 .player) = some (.missingNode 4 "thicket") ∧
      thicket.apply (.setSide 4 .player) = thicket ∧
      thicket.settled ops = [.addBehavior (.gate ⟨.battleStart, false⟩), .addNode (some 0) none,
        .addBehavior (.effect (.restoreMana 2))] ∧
      ops.foldl apply thicket = (thicket.settled ops).foldl apply thicket := by
  intro ops
  obtain ⟨missing, kept, -, same⟩ := refused_edits thicket ops
  have refused : thicket.refusal? (.setSide 4 .player) = some (.missingNode 4 "thicket") := missing _
  exact ⟨refused, (kept _ _ refused).1 rfl, rfl, same⟩

/-- A gate that is refused because its parent is missing changes what the only node of the thicket does, and the
position that the next behavior gets. -/
theorem thicket_caught :
    let refused : Op := .addGate (some 7) ⟨.battleStart, false⟩
    let F := thicket.apply refused
    thicket.refusal? refused = some (.missingParent 7 "thicket") ∧ F.behaviors ≠ thicket.behaviors ∧
      thicket.nodes[0]?.bind thicket.behaviorOf = none ∧
      F.nodes[0]?.bind F.behaviorOf = some (.gate ⟨.battleStart, false⟩) ∧
      (thicket.addBehavior (.effect (.restoreMana 2))).1 = 0 ∧
      (F.addBehavior (.effect (.restoreMana 2))).1 = 1 := by
  decide

end Forest

end Masquerade
