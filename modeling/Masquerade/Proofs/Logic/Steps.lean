import Masquerade.Logic.Walk
import Masquerade.Proofs.Logic.Shape

/-!
# Walks as sequences of steps

A walk is made of steps, each of which performs the behavior of one node (`perform`). A relation
between states that every step respects, and that can be chained, is respected by the walks of trees
(`visit_rel`) and of forests (`walk_rel`). With it a walk is seen to leave alone the counters of all
nodes outside its tree.
-/

namespace Masquerade

open RandomWords (Stream)

namespace Forest

variable {F : Forest} {m : Moment}

/-- Walks the trees of several nodes one after the other. -/
def visitAll (F : Forest) (m : Moment) (ids : List Nat) (s : WalkState) : WalkState :=
  ids.foldl (fun s id => F.visit m id s) s

@[simp] theorem visitAll_cons (F : Forest) (m : Moment) (id : Nat) (ids : List Nat)
    (s : WalkState) : F.visitAll m (id :: ids) s = F.visitAll m ids (F.visit m id s) :=
  rfl

/-- The walk of a tree whose node is missing. -/
theorem visit_missing {id : Nat} (h : F.nodes[id]? = none) (s : WalkState) :
    F.visit m id s = s := by
  rw [visit_eq, h]

/-- The walk of a tree whose node does not take part in the moment. -/
theorem visit_excluded {id : Nat} {node : Node} (h : F.nodes[id]? = some node)
    (hside : node.side.admits m = false) (s : WalkState) : F.visit m id s = s := by
  rw [visit_eq, h]
  simp [hside]

/-- The walk of a tree whose node takes part in the moment. -/
theorem visit_admitted {id : Nat} {node : Node} (h : F.nodes[id]? = some node)
    (hside : node.side.admits m = true) (s : WalkState) :
    F.visit m id s =
      if (F.perform m id node s).1 then
        F.visitAll m (F.childrenOf id) (F.perform m id node s).2
      else
        (F.perform m id node s).2 := by
  rw [visit_eq, h, childrenOf_eq h]
  simp only [hside, if_true]
  rcases F.perform m id node s with ⟨_ | _, s'⟩ <;> rfl

/-- A relation that can be chained and that the walk of each of several trees respects is respected
by their walk one after the other. -/
theorem visitAll_rel_of_visit {R : WalkState → WalkState → Prop} (refl : ∀ s, R s s)
    (trans : ∀ {s t u}, R s t → R t u → R s u) (ids : List Nat)
    (h : ∀ id ∈ ids, ∀ s, R s (F.visit m id s)) (s : WalkState) : R s (F.visitAll m ids s) := by
  induction ids generalizing s with
  | nil => exact refl s
  | cons id rest ih =>
    exact trans (h id List.mem_cons_self s)
      (ih (fun c hc => h c (List.mem_cons_of_mem id hc)) (F.visit m id s))

/-- A relation that can be chained and that every step below `id` respects is respected by the walk
of the tree. -/
theorem visit_rel {R : WalkState → WalkState → Prop} (refl : ∀ s, R s s)
    (trans : ∀ {s t u}, R s t → R t u → R s u) (id : Nat)
    (step : ∀ j ∈ F.below id, ∀ node, F.nodes[j]? = some node → ∀ s, R s (F.perform m j node s).2)
    (s : WalkState) : R s (F.visit m id s) := by
  induction id using F.childrenInduction generalizing s with
  | step id ih =>
    rw [below_eq] at step
    cases hn : F.nodes[id]? with
    | none =>
      rw [visit_missing hn]
      exact refl s
    | some node =>
      cases hside : node.side.admits m with
      | false =>
        rw [visit_excluded hn hside]
        exact refl s
      | true =>
        -- the step of the node itself comes first, and then the trees of its children
        have first := step id List.mem_cons_self node hn s
        rw [visit_admitted hn hside]
        split
        · refine trans first (visitAll_rel_of_visit refl trans _ (fun c hc => ?_) _)
          refine ih c hc fun j hj => step j ?_
          exact List.mem_cons_of_mem id (List.mem_flatMap.2 ⟨c, hc, hj⟩)
        · exact first

/-- A relation that every step respects is respected by the walk of the forest. -/
theorem walk_rel {R : WalkState → WalkState → Prop} (refl : ∀ s, R s s)
    (trans : ∀ {s t u}, R s t → R t u → R s u)
    (step : ∀ id node, F.nodes[id]? = some node → ∀ s, R s (F.perform m id node s).2)
    (s : WalkState) : R s (F.walk m s) :=
  visitAll_rel_of_visit refl trans F.roots
    (fun id _ => visit_rel refl trans id fun j _ => step j) s

/-! ## Counters -/

theorem perform_counters_size (F : Forest) (m : Moment) (id : Nat) (node : Node) (s : WalkState) :
    (F.perform m id node s).2.counters.size = s.counters.size := by
  unfold perform
  split <;> simp

theorem perform_counters_of_ne (F : Forest) (m : Moment) {id j : Nat} (hj : j ≠ id) (node : Node)
    (s : WalkState) : (F.perform m id node s).2.counters[j]? = s.counters[j]? := by
  unfold perform
  split
  · simp [Array.getElem?_setIfInBounds_ne hj.symm]
  · rfl
  · rfl

theorem visit_counters_size (F : Forest) (m : Moment) (id : Nat) (s : WalkState) :
    (F.visit m id s).counters.size = s.counters.size :=
  visit_rel (R := fun s t => t.counters.size = s.counters.size) (fun _ => rfl)
    (fun h₁ h₂ => h₂.trans h₁) id
    (fun j _ node _ s => F.perform_counters_size m j node s) s

theorem walk_counters_size (F : Forest) (m : Moment) (s : WalkState) :
    (F.walk m s).counters.size = s.counters.size :=
  visitAll_rel_of_visit (R := fun s t => t.counters.size = s.counters.size) (fun _ => rfl)
    (fun h₁ h₂ => h₂.trans h₁) F.roots (fun id _ s => F.visit_counters_size m id s) s

/-- The walk of a tree leaves alone the counters of all nodes outside it. -/
theorem visit_counters_of_not_mem (F : Forest) (m : Moment) {id j : Nat} (hj : j ∉ F.below id)
    (s : WalkState) : (F.visit m id s).counters[j]? = s.counters[j]? :=
  visit_rel (R := fun s t => t.counters[j]? = s.counters[j]?) (fun _ => rfl)
    (fun h₁ h₂ => h₂.trans h₁) id
    (fun k hk node _ s =>
      F.perform_counters_of_ne m (fun h : j = k => hj (h ▸ hk)) node s) s

theorem visitAll_counters_of_not_mem (F : Forest) (m : Moment) {ids : List Nat} {j : Nat}
    (hj : j ∉ ids.flatMap F.below) (s : WalkState) :
    (F.visitAll m ids s).counters[j]? = s.counters[j]? :=
  visitAll_rel_of_visit (R := fun s t => t.counters[j]? = s.counters[j]?) (fun _ => rfl)
    (fun h₁ h₂ => h₂.trans h₁) ids
    (fun id hid s => F.visit_counters_of_not_mem m
      (fun h => hj (List.mem_flatMap.2 ⟨id, hid, h⟩)) s) s

end Forest

end Masquerade
