import Mathlib.Data.List.Perm.Basic
import Masquerade.Logic.Forest

/-!
# Planted forests

`Planted` says that every node of a forest is linked from exactly one place, as a root or as a child of
one node, and has a counter. Each of the builder's operations keeps a forest planted, whether it is
refused or not.
-/

namespace Masquerade

namespace Forest

/-- The nodes linked from somewhere: the roots and the children of all nodes. -/
def links (F : Forest) : List Nat := F.roots ++ F.nodes.toList.flatMap (·.children)

/-- Every node is linked from exactly one place, and has a counter. -/
structure Planted (F : Forest) : Prop where
  once : F.links.Perm (List.range F.size)
  counted : F.counters.size = F.size

/-! ## Links under edits -/

/-- A node linked below `parent` is one more child among all children. -/
theorem flatMap_children_linkChild (nodes : Array Node) (parent child : Nat)
    (h : parent < nodes.size) :
    ((linkChild nodes parent child).toList.flatMap (·.children)).Perm
      (nodes.toList.flatMap (·.children) ++ [child]) := by
  obtain ⟨nodes⟩ := nodes
  simp only [linkChild, List.modify_toArray]
  induction nodes generalizing parent with
  | nil => simp at h
  | cons node rest ih =>
    cases parent with
    | zero =>
      rw [List.modify_zero_cons, List.flatMap_cons, List.flatMap_cons, List.append_assoc,
        List.append_assoc]
      exact List.Perm.append_left _ List.perm_append_comm
    | succ parent =>
      rw [List.modify_succ_cons, List.flatMap_cons, List.flatMap_cons, List.append_assoc]
      exact List.Perm.append_left _ (ih parent (by simpa using h))

/-- A change that leaves children alone leaves the list of all children alone. -/
theorem flatMap_children_modify (nodes : Array Node) (id : Nat) (f : Node → Node)
    (hf : ∀ node, (f node).children = node.children) :
    (nodes.modify id f).toList.flatMap (·.children) = nodes.toList.flatMap (·.children) := by
  obtain ⟨nodes⟩ := nodes
  simp only [List.modify_toArray]
  induction nodes generalizing id with
  | nil => cases id <;> rfl
  | cons node rest ih =>
    cases id with
    | zero => rw [List.modify_zero_cons, List.flatMap_cons, List.flatMap_cons, hf]
    | succ id => rw [List.modify_succ_cons, List.flatMap_cons, List.flatMap_cons, ih]

/-- A forest with one more node, linked from one place, stays planted. -/
theorem Planted.grow {F G : Forest} (h : F.Planted) (links : G.links.Perm (F.links ++ [F.size]))
    (size : G.size = F.size + 1) (counters : G.counters = F.counters.push 0) : G.Planted := by
  refine ⟨?_, by rw [counters, Array.size_push, h.counted, size]⟩
  rw [size, List.range_succ]
  exact links.trans (h.once.append_right _)

theorem Planted.addNode {F : Forest} (h : F.Planted) (parent behavior : Option Nat) :
    (F.addNode parent behavior).2.Planted := by
  cases parent with
  | none =>
    -- the new root is listed before all children, but the order of links does not matter
    refine h.grow ?_ (Array.size_push _) rfl
    simp only [links, Forest.addNode, Array.toList_push, List.flatMap_append,
      List.flatMap_singleton, List.append_nil, List.append_assoc]
    exact List.Perm.append_left _ List.perm_append_comm
  | some parent =>
    by_cases hp : parent < F.nodes.size
    · simp only [Forest.addNode, dif_pos hp]
      refine h.grow ?_ ?_ rfl
      · simp only [links, Array.toList_push, List.flatMap_append, List.flatMap_singleton,
          List.append_nil, List.append_assoc]
        exact List.Perm.append_left _ (flatMap_children_linkChild F.nodes parent F.size hp)
      · simp [size, linkChild]
    · -- the parent is missing, and the forest is the old one
      simpa only [Forest.addNode, dif_neg hp] using h

theorem Planted.addBehavior {F : Forest} (h : F.Planted) (b : Behavior) :
    (F.addBehavior b).2.Planted :=
  ⟨h.once, h.counted⟩

theorem Planted.modifyNode {F : Forest} (h : F.Planted) (id : Nat) (f : Node → Node)
    (hf : ∀ node, (f node).children = node.children) : (F.modifyNode id f hf).2.Planted := by
  unfold Forest.modifyNode
  split
  · refine ⟨?_, ?_⟩
    · simpa only [links, size, flatMap_children_modify F.nodes id f hf, Array.size_modify]
        using h.once
    · simpa only [size, Array.size_modify] using h.counted
  · exact h

theorem Planted.addGroup {F : Forest} (h : F.Planted) (parent : Option Nat) (title : String) :
    (F.addGroup parent title).2.Planted := by
  have hnode := h.addNode parent none
  unfold Forest.addGroup
  split
  · next id G hG =>
    rw [hG] at hnode
    exact hnode.modifyNode id _ _
  · next e G hG =>
    rw [hG] at hnode
    exact hnode

theorem planted_empty (label : String) : (empty label).Planted :=
  ⟨List.Perm.refl _, rfl⟩

end Forest

end Masquerade
