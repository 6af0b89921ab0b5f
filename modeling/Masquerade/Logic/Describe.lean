import Masquerade.Logic.Forest

/-!
# Forests in words

The text of a forest has one line for each node that has a title or names a behavior, in the order in
which a walk meets the nodes. A line is indented by two spaces for every node above it that has a
line; other nodes only group. A title is not shown where there is a behavior to show.
-/

namespace Masquerade

/-- The remark on a node that takes part in one side's attacks only. -/
def SideFilter.remark : SideFilter → String
  | both => ""
  | player => " (player attacks)"
  | enemy => " (enemy attacks)"

namespace Forest

/-- The line of a node without its indentation, if the node has a line. -/
def nodeLine? (F : Forest) (node : Node) : Option String :=
  match node.behavior with
  | some handle =>
    match F.behaviors[handle]? with
    | some (.gate gate) => some (gate.describe ++ node.side.remark ++ ":\n")
    | some (.effect effect) => some ("- " ++ effect.describe ++ node.side.remark ++ "\n")
    | none => some "- (unbound behavior)\n"
  | none => node.title.map fun title => title ++ node.side.remark ++ ":\n"

/-- Two spaces for each level. -/
def indent (depth : Nat) : String := String.ofList (List.replicate (2 * depth) ' ')

/-- The lines of the tree below the node at `id`. -/
def describeNode (F : Forest) (id depth : Nat) : List String :=
  match _h : F.nodes[id]? with
  | none => []
  | some node =>
    match F.nodeLine? node with
    | some line =>
      (indent depth ++ line) ::
        node.children.attach.flatMap fun child => F.describeNode child.1 (depth + 1)
    | none => node.children.attach.flatMap fun child => F.describeNode child.1 depth
termination_by F.size - id
decreasing_by
  all_goals
    have hid : id < F.nodes.size := (Array.getElem?_eq_some_iff.1 _h).1
    have hlt := F.forward id node _h child.1 child.2
    unfold size
    omega

/-- The lines of a tree, one node at a time. -/
theorem describeNode_eq (F : Forest) (id depth : Nat) :
    F.describeNode id depth =
      match F.nodes[id]? with
      | none => []
      | some node =>
        match F.nodeLine? node with
        | some line =>
          (indent depth ++ line) ::
            node.children.flatMap fun child => F.describeNode child (depth + 1)
        | none => node.children.flatMap fun child => F.describeNode child depth := by
  rw [describeNode]
  split
  · next h => simp [h]
  · next node h =>
    simp only [h]
    split <;> simp_all

/-- The forest in words. -/
def describe (F : Forest) : String :=
  String.join (F.roots.flatMap fun root => F.describeNode root 0)

end Forest

end Masquerade
