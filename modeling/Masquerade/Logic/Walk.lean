import Masquerade.Logic.Forest

/-!
# Walks

At a moment of the round the forest is walked from its roots, every node before its children and
siblings in their order. A node whose side filter does not admit the moment is left out with
everything below it. A gate is asked once, and if it skips, everything below it is left out. An
effect is applied, and the walk goes on below it whatever comes of it. A walk changes counters,
targets and the random words, and nothing else of the forest.
-/

namespace Masquerade

open RandomWords (Stream)

/-- What a walk changes. -/
structure WalkState where
  counters : Array UInt32
  targets : Targets
  rng : Stream

namespace Forest

/-- Performs a node's behavior, and answers whether the walk goes on to the children. -/
def perform (F : Forest) (m : Moment) (id : Nat) (node : Node) (s : WalkState) :
    Bool × WalkState :=
  match F.behaviorOf node with
  | some (.gate gate) =>
    let verdict := gate.judge (s.counters[id]?.getD 0) m s.rng
    let counters := s.counters.setIfInBounds id verdict.counter
    (!verdict.skips, { s with counters := counters, rng := verdict.rng })
  | some (.effect effect) =>
    (true, { s with targets := (effect.perform? m s.targets).getD s.targets })
  | none => (true, s)

/-- A child lies nearer to the end of the table than its parent. -/
theorem size_sub_child_lt (F : Forest) {id : Nat} {node : Node} (h : F.nodes[id]? = some node)
    {child : Nat} (hc : child ∈ node.children) : F.size - child < F.size - id := by
  have hid : id < F.nodes.size := (Array.getElem?_eq_some_iff.1 h).1
  have hlt := F.forward id node h child hc
  unfold size
  omega

/-- Walks the tree below the node at `id`. -/
def visit (F : Forest) (m : Moment) (id : Nat) (s : WalkState) : WalkState :=
  match _h : F.nodes[id]? with
  | none => s
  | some node =>
    if node.side.admits m then
      match F.perform m id node s with
      | (true, s) => node.children.attach.foldl (fun s child => F.visit m child.1 s) s
      | (false, s) => s
    else
      s
termination_by F.size - id
decreasing_by exact F.size_sub_child_lt _h child.2

/-- The walk of a tree, one node at a time. -/
theorem visit_eq (F : Forest) (m : Moment) (id : Nat) (s : WalkState) :
    F.visit m id s =
      match F.nodes[id]? with
      | none => s
      | some node =>
        if node.side.admits m then
          match F.perform m id node s with
          | (true, s) => node.children.foldl (fun s child => F.visit m child s) s
          | (false, s) => s
        else
          s := by
  rw [visit]
  split
  · next h => simp [h]
  · next node h =>
    simp only [h]
    congr 1
    split <;> simp_all

/-- Walks the trees of all roots in their order. -/
def walk (F : Forest) (m : Moment) (s : WalkState) : WalkState :=
  F.roots.foldl (fun s root => F.visit m root s) s

/-- Walks the forest at a moment: the forest with its new counters, the targets and the random words
that are left. -/
def run (F : Forest) (m : Moment) (targets : Targets) (rng : Stream) :
    Forest × Targets × Stream :=
  let s := F.walk m ⟨F.counters, targets, rng⟩
  ({ F with counters := s.counters }, s.targets, s.rng)

/-- Walks several forests, one after the other, at the same moment. -/
def runAll (forests : List Forest) (m : Moment) (targets : Targets) (rng : Stream) :
    List Forest × Targets × Stream :=
  match forests with
  | [] => ([], targets, rng)
  | F :: rest =>
    let (F, targets, rng) := F.run m targets rng
    let (rest, targets, rng) := runAll rest m targets rng
    (F :: rest, targets, rng)

end Forest

end Masquerade
