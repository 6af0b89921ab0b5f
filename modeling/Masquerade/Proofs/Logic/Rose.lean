import Mathlib.Data.List.Basic

/-!
# Rose trees

A `Rose` is a labelled node with a list of trees below it. It is the form in which the tables of a
logic forest are unfolded: of positions for the shape of a forest, and of nodes for its content.
`preorder` lists the labels as a walk meets them, every label before those below it.
-/

namespace Masquerade

/-- A labelled node with the trees below it, in their order. -/
inductive Rose (α : Type) where
  | node (label : α) (below : List (Rose α))

namespace Rose

variable {α β : Type}

/-- The label of the topmost node. -/
def label : Rose α → α
  | node a _ => a

mutual

/-- The labels of a tree, each before those below it. -/
def preorder : Rose α → List α
  | node a below => a :: preorderAll below

/-- The labels of several trees, tree after tree. -/
def preorderAll : List (Rose α) → List α
  | [] => []
  | t :: rest => preorder t ++ preorderAll rest

end

mutual

/-- The tree with every label changed. -/
def map (f : α → β) : Rose α → Rose β
  | node a below => node (f a) (mapAll f below)

/-- The trees with every label changed. -/
def mapAll (f : α → β) : List (Rose α) → List (Rose β)
  | [] => []
  | t :: rest => map f t :: mapAll f rest

end

theorem preorderAll_eq_flatMap (ts : List (Rose α)) : preorderAll ts = ts.flatMap preorder := by
  induction ts with
  | nil => rfl
  | cons t rest ih => rw [preorderAll, ih, List.flatMap_cons]

theorem mapAll_eq_map (f : α → β) (ts : List (Rose α)) : mapAll f ts = ts.map (map f) := by
  induction ts with
  | nil => rfl
  | cons t rest ih => rw [mapAll, ih, List.map_cons]

/-- Induction with one hypothesis for every tree below the node. -/
@[induction_eliminator]
theorem induct {motive : Rose α → Prop}
    (node : ∀ a below, (∀ t ∈ below, motive t) → motive (node a below)) (t : Rose α) :
    motive t := by
  refine Rose.rec (motive_1 := motive) (motive_2 := fun ts => ∀ t ∈ ts, motive t) node ?_ ?_ t
  · intro t ht
    cases ht
  · intro t rest ht hrest u hu
    rcases List.mem_cons.1 hu with rfl | hu
    · exact ht
    · exact hrest u hu

theorem preorder_map (f : α → β) (t : Rose α) : (t.map f).preorder = t.preorder.map f := by
  induction t with
  | node a below ih =>
    simp only [map, preorder, mapAll_eq_map, preorderAll_eq_flatMap, List.map_cons,
      List.flatMap_map, List.map_flatMap]
    congr 1
    exact List.flatMap_congr ih

/-- Two changes of labels that agree on the labels of a tree have the same result. -/
theorem map_congr {f g : α → β} (t : Rose α) (h : ∀ a ∈ t.preorder, f a = g a) :
    t.map f = t.map g := by
  induction t with
  | node a below ih =>
    simp only [preorder, preorderAll_eq_flatMap, List.forall_mem_cons] at h
    simp only [map, mapAll_eq_map, h.1]
    congr 1
    refine List.map_congr_left fun t ht => ih t ht fun b hb => h.2 b ?_
    exact List.mem_flatMap.2 ⟨t, ht, hb⟩

end Rose

end Masquerade
