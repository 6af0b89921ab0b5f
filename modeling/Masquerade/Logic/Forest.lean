import Masquerade.Logic.Effect
import Masquerade.Logic.Gate

/-!
# Logic forests

The logic of a material is a forest: nodes with an order among siblings, each carrying at most one
behavior. Nodes and behaviors live in two tables of the forest and are named by their positions
there. A node is only ever made as a new root or as the last child of a node that exists, so every
child comes after its parent in the table (`Forest.forward`), which is what walks of the forest
recurse on. Several nodes may name one behavior. A node may also name a behavior that the table does
not have: it then only groups its children. What gates count is kept beside the nodes, one counter
for each.
-/

namespace Masquerade

/-- What a node does. -/
inductive Behavior where
  | gate (gate : Gate)
  | effect (effect : Effect)
  deriving DecidableEq

/-- A node of a forest. -/
structure Node where
  title : Option String := none
  /-- The position of the node's behavior in the table of behaviors. -/
  behavior : Option Nat := none
  side : SideFilter := .both
  /-- The positions of the node's children in the table of nodes, in their order. -/
  children : List Nat := []
  deriving DecidableEq

/-- A forest of nodes with their behaviors and counters. -/
structure Forest where
  label : String
  behaviors : Array Behavior
  nodes : Array Node
  roots : List Nat
  /-- What the gate of each node has counted. -/
  counters : Array UInt32
  /-- Children come after their parents. -/
  forward : ∀ (id : Nat) (node : Node), nodes[id]? = some node → ∀ child ∈ node.children, id < child

/-- A refused change of a forest. -/
inductive NodeError where
  /-- The parent of a new node does not exist. -/
  | missingParent (parent : Nat) (label : String)
  /-- The node to be changed does not exist. -/
  | missingNode (id : Nat) (label : String)
  deriving DecidableEq

/-- The refusal in words. -/
def NodeError.message : NodeError → String
  | missingParent parent label => s!"parent {parent} does not exist in '{label}'"
  | missingNode id label => s!"node {id} does not exist in '{label}'"

namespace Forest

/-- The forest without nodes. -/
def empty (label : String) : Forest where
  label := label
  behaviors := #[]
  nodes := #[]
  roots := []
  counters := #[]
  forward := by simp

/-- The number of nodes. -/
def size (F : Forest) : Nat := F.nodes.size

/-- The counter of a node, zero for a node that does not exist. -/
def counter (F : Forest) (id : Nat) : UInt32 := F.counters[id]?.getD 0

/-- Sets every counter to zero. -/
def reset (F : Forest) : Forest :=
  { F with counters := F.counters.map fun _ => 0 }

/-! ## Building

A change of a forest answers with the new node or with a refusal, and with the forest afterwards. The
two are separate, because a refused change can leave something behind: `addGate` and `addEffect`
enter their behavior before the node is refused. -/

/-- What a change of a forest answers, and the forest after it. -/
abbrev Edited (α : Type) := Except NodeError α × Forest

/-- Enters a behavior into the table and answers its position. -/
def addBehavior (F : Forest) (b : Behavior) : Nat × Forest :=
  (F.behaviors.size, { F with behaviors := F.behaviors.push b })

/-- The table of nodes with a new child entered below `parent`. -/
def linkChild (nodes : Array Node) (parent child : Nat) : Array Node :=
  nodes.modify parent fun node => { node with children := node.children ++ [child] }

/-- A new node links forward when it is linked below a node before it. -/
theorem forward_linkChild_push {nodes : Array Node} {parent : Nat} {new : Node}
    (h : ∀ (id : Nat) (node : Node), nodes[id]? = some node → ∀ c ∈ node.children, id < c)
    (hp : parent < nodes.size) (hnew : new.children = []) (id : Nat) (node : Node)
    (hn : ((linkChild nodes parent nodes.size).push new)[id]? = some node) :
    ∀ c ∈ node.children, id < c := by
  intro c hc
  rw [Array.getElem?_push] at hn
  split at hn
  · simp only [Option.some.injEq] at hn
    subst hn
    simp [hnew] at hc
  · rw [linkChild, Array.getElem?_modify] at hn
    split at hn
    · rename_i heq
      obtain ⟨old, hold, rfl⟩ := Option.map_eq_some_iff.1 hn
      rcases List.mem_append.1 hc with hc | hc
      · exact h id old hold c hc
      · rw [List.mem_singleton] at hc
        omega
    · exact h id node hn c hc

/-- A new root links forward, having no children. -/
theorem forward_push {nodes : Array Node} {new : Node}
    (h : ∀ (id : Nat) (node : Node), nodes[id]? = some node → ∀ c ∈ node.children, id < c)
    (hnew : new.children = []) (id : Nat) (node : Node)
    (hn : (nodes.push new)[id]? = some node) : ∀ c ∈ node.children, id < c := by
  intro c hc
  rw [Array.getElem?_push] at hn
  split at hn
  · simp only [Option.some.injEq] at hn
    subst hn
    simp [hnew] at hc
  · exact h id node hn c hc

/-- A change that leaves children alone keeps the links forward. -/
theorem forward_modify {nodes : Array Node} {id : Nat} {f : Node → Node}
    (h : ∀ (id : Nat) (node : Node), nodes[id]? = some node → ∀ c ∈ node.children, id < c)
    (hf : ∀ node, (f node).children = node.children) (i : Nat) (node : Node)
    (hn : (nodes.modify id f)[i]? = some node) : ∀ c ∈ node.children, i < c := by
  intro c hc
  rw [Array.getElem?_modify] at hn
  split at hn
  · obtain ⟨old, hold, rfl⟩ := Option.map_eq_some_iff.1 hn
    rw [hf] at hc
    exact h i old hold c hc
  · exact h i node hn c hc

/-- Makes a node: a new root, or the last child of `parent`. -/
def addNode (F : Forest) (parent behavior : Option Nat) : Edited Nat :=
  let id := F.size
  let node : Node := { behavior := behavior }
  match parent with
  | none =>
    (.ok id, { F with
      nodes := F.nodes.push node
      roots := F.roots ++ [id]
      counters := F.counters.push 0
      forward := forward_push F.forward rfl })
  | some parent =>
    if h : parent < F.nodes.size then
      (.ok id, { F with
        nodes := (linkChild F.nodes parent id).push node
        counters := F.counters.push 0
        forward := forward_linkChild_push F.forward h rfl })
    else
      (.error (.missingParent parent F.label), F)

/-- Makes a node with a gate of its own. -/
def addGate (F : Forest) (parent : Option Nat) (gate : Gate) : Edited Nat :=
  let (handle, F) := F.addBehavior (.gate gate)
  F.addNode parent (some handle)

/-- Makes a node with an effect of its own. -/
def addEffect (F : Forest) (parent : Option Nat) (effect : Effect) : Edited Nat :=
  let (handle, F) := F.addBehavior (.effect effect)
  F.addNode parent (some handle)

/-- Changes the node at `id` by a function that leaves its children alone. -/
def modifyNode (F : Forest) (id : Nat) (f : Node → Node)
    (hf : ∀ node, (f node).children = node.children) : Edited Unit :=
  if id < F.size then
    (.ok (), { F with nodes := F.nodes.modify id f, forward := forward_modify F.forward hf })
  else
    (.error (.missingNode id F.label), F)

/-- Gives a node a title. -/
def setTitle (F : Forest) (id : Nat) (title : String) : Edited Unit :=
  F.modifyNode id (fun node => { node with title := some title }) fun _ => rfl

/-- Restricts a node to the attacks of one side, or lifts the restriction. -/
def setSide (F : Forest) (id : Nat) (side : SideFilter) : Edited Unit :=
  F.modifyNode id (fun node => { node with side := side }) fun _ => rfl

/-- Makes a titled node without a behavior. -/
def addGroup (F : Forest) (parent : Option Nat) (title : String) : Edited Nat :=
  match F.addNode parent none with
  | (.ok id, F) => (.ok id, (F.setTitle id title).2)
  | (.error e, F) => (.error e, F)

/-- The behavior that a node names, if the table has it. -/
def behaviorOf (F : Forest) (node : Node) : Option Behavior :=
  node.behavior.bind fun handle => F.behaviors[handle]?

end Forest

end Masquerade
