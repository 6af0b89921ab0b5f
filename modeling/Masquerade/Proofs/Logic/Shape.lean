import Mathlib.Data.List.Nodup
import Mathlib.Data.List.Pairwise
import Masquerade.Proofs.Logic.Planted
import Masquerade.Proofs.Logic.Rose

/-!
# The shape of a forest

`shape` unfolds the table of a forest into trees of positions, and `below` lists the positions of such
a tree in preorder. In a planted forest the trees of the roots hold every position exactly once
(`Planted.below_roots`), so no two of them, and no two trees below one node, share a node.
-/

namespace Masquerade

namespace Forest

/-- The children of the node at `id`; a node that does not exist has none. -/
def childrenOf (F : Forest) (id : Nat) : List Nat :=
  match F.nodes[id]? with
  | none => []
  | some node => node.children

theorem childrenOf_eq {F : Forest} {id : Nat} {node : Node} (h : F.nodes[id]? = some node) :
    F.childrenOf id = node.children := by
  rw [childrenOf, h]

/-- A child comes after its parent, and the parent exists. -/
theorem lt_of_mem_childrenOf {F : Forest} {id child : Nat} (h : child ∈ F.childrenOf id) :
    id < child ∧ id < F.size := by
  unfold childrenOf at h
  split at h
  · cases h
  · next node hn => exact ⟨F.forward id node hn child h, (Array.getElem?_eq_some_iff.1 hn).1⟩

/-- Induction from the children of a node to the node. -/
theorem childrenInduction (F : Forest) {motive : Nat → Prop}
    (step : ∀ id, (∀ child ∈ F.childrenOf id, motive child) → motive id) (id : Nat) :
    motive id := by
  -- children lie nearer to the end of the table, so the distance to it gets smaller
  induction hk : F.size - id using Nat.strongRecOn generalizing id with
  | _ k ih =>
    refine step id fun child hc => ih (F.size - child) ?_ child rfl
    have := lt_of_mem_childrenOf hc
    omega

/-- The tree of positions below `id`. -/
def shape (F : Forest) (id : Nat) : Rose Nat :=
  .node id ((F.childrenOf id).attach.map fun child => F.shape child.1)
termination_by F.size - id
decreasing_by
  have := lt_of_mem_childrenOf child.2
  omega

theorem shape_eq (F : Forest) (id : Nat) :
    F.shape id = .node id ((F.childrenOf id).map F.shape) := by
  rw [shape, List.attach_map_val (f := F.shape)]

/-- The node at `id` and the nodes below it, each before its children. -/
def below (F : Forest) (id : Nat) : List Nat := (F.shape id).preorder

theorem below_eq (F : Forest) (id : Nat) :
    F.below id = id :: (F.childrenOf id).flatMap F.below := by
  rw [below, shape_eq, Rose.preorder, Rose.preorderAll_eq_flatMap, List.flatMap_map]
  rfl

/-! ## Every node in one place -/

theorem flatMap_children_eq (F : Forest) :
    F.nodes.toList.flatMap (·.children) = (List.range F.size).flatMap F.childrenOf := by
  have hnodes : F.nodes.toList.map (·.children) = (List.range F.size).map F.childrenOf := by
    refine List.ext_getElem (by simp [size]) fun i h₁ h₂ => ?_
    have hi : i < F.nodes.size := by simpa using h₁
    rw [List.getElem_map, List.getElem_map, List.getElem_range,
      childrenOf_eq (Array.getElem?_eq_getElem hi), Array.getElem_toList]
  rw [List.flatMap_def, hnodes, ← List.flatMap_def]

theorem links_eq (F : Forest) : F.links = F.roots ++ (List.range F.size).flatMap F.childrenOf := by
  rw [links, flatMap_children_eq]

/-- The trees of the roots hold every node of a planted forest exactly once. Every node is linked
once, so the nodes below all nodes are on the one hand those below the roots and below all children,
and on the other hand all nodes and those below all children. -/
theorem Planted.below_roots {F : Forest} (h : F.Planted) :
    (F.roots.flatMap F.below).Perm (List.range F.size) := by
  have linked : ((List.range F.size).flatMap F.below).Perm
      (F.roots.flatMap F.below ++ ((List.range F.size).flatMap F.childrenOf).flatMap F.below) := by
    rw [← List.flatMap_append, ← links_eq]
    exact h.once.symm.flatMap_right F.below
  have split : ((List.range F.size).flatMap F.below).Perm
      (List.range F.size ++ ((List.range F.size).flatMap F.childrenOf).flatMap F.below) := by
    rw [List.flatMap_assoc, List.flatMap_congr fun id _ => F.below_eq id]
    simpa using (List.map_append_flatMap_perm (List.range F.size) id fun id =>
      (F.childrenOf id).flatMap F.below).symm
  exact (List.perm_append_right_iff _).1 (linked.symm.trans split)

theorem Planted.nodup_below_roots {F : Forest} (h : F.Planted) :
    (F.roots.flatMap F.below).Nodup :=
  h.below_roots.nodup_iff.2 List.nodup_range

theorem Planted.nodup_links {F : Forest} (h : F.Planted) :
    (F.roots ++ (List.range F.size).flatMap F.childrenOf).Nodup := by
  rw [← links_eq]
  exact h.once.nodup_iff.2 List.nodup_range

theorem Planted.lt_size_of_mem_below {F : Forest} (h : F.Planted) {id : Nat}
    (hid : id ∈ F.roots.flatMap F.below) : id < F.size :=
  List.mem_range.1 (h.below_roots.mem_iff.1 hid)

theorem Planted.lt_size_root {F : Forest} (h : F.Planted) {root : Nat} (hr : root ∈ F.roots) :
    root < F.size :=
  List.mem_range.1 (h.once.mem_iff.1 (List.mem_append_left _ hr))

theorem mem_flatMap_childrenOf {F : Forest} {p c : Nat} (hc : c ∈ F.childrenOf p) :
    c ∈ (List.range F.size).flatMap F.childrenOf :=
  List.mem_flatMap.2 ⟨p, List.mem_range.2 (lt_of_mem_childrenOf hc).2, hc⟩

theorem Planted.lt_size_child {F : Forest} (h : F.Planted) {p c : Nat}
    (hc : c ∈ F.childrenOf p) : c < F.size := by
  refine List.mem_range.1 (h.once.mem_iff.1 ?_)
  rw [links_eq]
  exact List.mem_append_right _ (mem_flatMap_childrenOf hc)

/-- A root is no child. -/
theorem Planted.root_not_child {F : Forest} (h : F.Planted) {root p : Nat}
    (hr : root ∈ F.roots) : root ∉ F.childrenOf p := fun hc =>
  (List.nodup_append.1 h.nodup_links).2.2 root hr root (mem_flatMap_childrenOf hc) rfl

/-- A node is a child of one node only. -/
theorem Planted.parent_unique {F : Forest} (h : F.Planted) {p q c : Nat}
    (hp : c ∈ F.childrenOf p) (hq : c ∈ F.childrenOf q) : p = q := by
  have hnodup := (List.nodup_append.1 h.nodup_links).2.1
  -- with two parents the node would stand twice among all children
  by_contra hne
  have disjoint := (List.nodup_flatMap.1 hnodup).2
  have : Std.Symm (Function.onFun List.Disjoint F.childrenOf) :=
    ⟨fun _ _ => List.disjoint_symm⟩
  exact disjoint.forall (List.mem_range.2 (lt_of_mem_childrenOf hp).2)
    (List.mem_range.2 (lt_of_mem_childrenOf hq).2) hne hp hq

end Forest

end Masquerade
