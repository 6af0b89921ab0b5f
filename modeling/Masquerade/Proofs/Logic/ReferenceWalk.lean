import Masquerade.Proofs.Logic.Building
import Masquerade.Proofs.Logic.Stops

/-!
# The reference walk

The reference walk is a recursion over trees whose nodes hold their own behavior and their own
counter, so that nothing is shared and nothing is looked up. `treeIn` unfolds the table of a forest
into such trees. Running a built forest does what the reference walk does to its trees
(`run_build`).
-/

namespace Masquerade

open RandomWords (Stream)

/-- A node of the logic that holds all it needs: its position, its side filter, its behavior and its
counter. -/
structure Place where
  id : Nat
  side : SideFilter
  behavior : Option Behavior
  counter : UInt32

namespace Rose

mutual

/-- The reference walk of a tree: the tree with its new counters, the targets and the random words.
A node that does not take part in the moment is left as it is, and so is everything below it. A gate
is asked once, with its own counter; if it skips, everything below it is left as it is. An effect is
applied, and then every tree below is walked. A node without a behavior only has the trees below it
walked. -/
def process (m : Moment) : Rose Place → Targets → Stream → Rose Place × Targets × Stream
  | node p below, targets, rng =>
    if p.side.admits m then
      match p.behavior with
      | some (.gate gate) =>
        let verdict := gate.judge p.counter m rng
        let p := { p with counter := verdict.counter }
        if verdict.skips then
          (node p below, targets, verdict.rng)
        else
          let (below, targets, rng) := processAll m below targets verdict.rng
          (node p below, targets, rng)
      | some (.effect effect) =>
        let targets := (effect.perform? m targets).getD targets
        let (below, targets, rng) := processAll m below targets rng
        (node p below, targets, rng)
      | none =>
        let (below, targets, rng) := processAll m below targets rng
        (node p below, targets, rng)
    else
      (node p below, targets, rng)

/-- The reference walk of several trees, from left to right. -/
def processAll (m : Moment) :
    List (Rose Place) → Targets → Stream → List (Rose Place) × Targets × Stream
  | [], targets, rng => ([], targets, rng)
  | t :: rest, targets, rng =>
    let (t, targets, rng) := process m t targets rng
    let (rest, targets, rng) := processAll m rest targets rng
    (t :: rest, targets, rng)

end

end Rose

namespace Forest

/-- The node at `id` with its behavior and its counter. A missing node has neither. -/
def placeIn (F : Forest) (counters : Array UInt32) (id : Nat) : Place where
  id := id
  side := (F.nodes[id]?.map (·.side)).getD .both
  behavior := F.nodes[id]?.bind F.behaviorOf
  counter := counters[id]?.getD 0

/-- The tree below `id`, unfolded with the given counters. -/
def treeIn (F : Forest) (counters : Array UInt32) (id : Nat) : Rose Place :=
  (F.shape id).map (F.placeIn counters)

/-- The trees of the roots. -/
def trees (F : Forest) : List (Rose Place) := F.roots.map (F.treeIn F.counters)

variable {F : Forest} {m : Moment}

theorem treeIn_eq (F : Forest) (counters : Array UInt32) (id : Nat) :
    F.treeIn counters id =
      .node (F.placeIn counters id) ((F.childrenOf id).map (F.treeIn counters)) := by
  rw [treeIn, shape_eq, Rose.map, Rose.mapAll_eq_map, List.map_map]
  rfl

/-- A tree depends on the counters of its own nodes only. -/
theorem treeIn_congr {c₁ c₂ : Array UInt32} {id : Nat}
    (h : ∀ j ∈ F.below id, c₁[j]? = c₂[j]?) : F.treeIn c₁ id = F.treeIn c₂ id := by
  refine Rose.map_congr _ fun j hj => ?_
  rw [placeIn, placeIn, h j hj]

/-! ## A walk does what the reference walk does -/

/-- The walk of the tree at `id` does what the reference walk does to the unfolded tree. -/
def Agrees (F : Forest) (m : Moment) (id : Nat) : Prop :=
  ∀ s : WalkState, (F.below id).Nodup → (∀ j ∈ F.below id, j < s.counters.size) →
    Rose.process m (F.treeIn s.counters id) s.targets s.rng =
      (F.treeIn (F.visit m id s).counters id, (F.visit m id s).targets, (F.visit m id s).rng)

/-- Trees without a common node can be walked one after the other: what the walk of one does to the
counters is not seen by the others. -/
theorem processAll_treeIn {ids : List Nat} (h : ∀ id ∈ ids, F.Agrees m id) (s : WalkState)
    (nodup : (ids.flatMap F.below).Nodup) (bound : ∀ j ∈ ids.flatMap F.below, j < s.counters.size) :
    Rose.processAll m (ids.map (F.treeIn s.counters)) s.targets s.rng =
      (ids.map (F.treeIn (F.visitAll m ids s).counters), (F.visitAll m ids s).targets,
        (F.visitAll m ids s).rng) := by
  induction ids generalizing s with
  | nil => rfl
  | cons id rest ih =>
    rw [List.flatMap_cons] at nodup bound
    obtain ⟨nodupId, nodupRest, disjoint⟩ := List.nodup_append.1 nodup
    have first := h id List.mem_cons_self s nodupId fun j hj =>
      bound j (List.mem_append_left _ hj)
    -- the trees that are still to come do not see the counters that the first walk has changed
    have coming : rest.map (F.treeIn s.counters) =
        rest.map (F.treeIn (F.visit m id s).counters) := by
      refine List.map_congr_left fun c hc => treeIn_congr fun j hj => ?_
      refine (F.visit_counters_of_not_mem m (fun hid => ?_) s).symm
      exact disjoint j hid j (List.mem_flatMap.2 ⟨c, hc, hj⟩) rfl
    have later := ih (fun c hc => h c (List.mem_cons_of_mem id hc)) (F.visit m id s) nodupRest
      fun j hj => by
        rw [visit_counters_size]
        exact bound j (List.mem_append_right _ hj)
    -- the tree that is done does not see the counters that the later walks change
    have done : F.treeIn (F.visit m id s).counters id =
        F.treeIn (F.visitAll m rest (F.visit m id s)).counters id := by
      refine treeIn_congr fun j hj => (visitAll_counters_of_not_mem F m (fun hrest => ?_) _).symm
      exact disjoint j hj j hrest rfl
    rw [List.map_cons, Rose.processAll, first]
    simp only
    rw [coming, later]
    simp only
    rw [visitAll_cons, List.map_cons, done]

theorem placeIn_congr {c₁ c₂ : Array UInt32} {id : Nat} (h : c₁[id]? = c₂[id]?) :
    F.placeIn c₁ id = F.placeIn c₂ id := by
  rw [placeIn, placeIn, h]

/-- The tree at `id` after its own step and the walk of its children. -/
theorem treeIn_visitAll_children {id : Nat} (hself : id ∉ (F.childrenOf id).flatMap F.below)
    (s : WalkState) :
    F.treeIn (F.visitAll m (F.childrenOf id) s).counters id =
      .node (F.placeIn s.counters id)
        ((F.childrenOf id).map (F.treeIn (F.visitAll m (F.childrenOf id) s).counters)) := by
  rw [treeIn_eq, placeIn_congr (F.visitAll_counters_of_not_mem m hself s)]

/-- The step of a node does not change the trees of its children. -/
theorem map_treeIn_perform {id : Nat} (hself : id ∉ (F.childrenOf id).flatMap F.below)
    (node : Node) (s : WalkState) :
    (F.childrenOf id).map (F.treeIn (F.perform m id node s).2.counters) =
      (F.childrenOf id).map (F.treeIn s.counters) := by
  refine List.map_congr_left fun c hc => treeIn_congr fun j hj => ?_
  refine F.perform_counters_of_ne m ?_ node s
  rintro rfl
  exact hself (List.mem_flatMap.2 ⟨c, hc, hj⟩)

theorem placeIn_eq {id : Nat} {node : Node} (hn : F.nodes[id]? = some node)
    (counters : Array UInt32) :
    F.placeIn counters id =
      ⟨id, node.side, F.behaviorOf node, counters[id]?.getD 0⟩ := by
  simp [placeIn, hn]

theorem agrees_missing {id : Nat} (hn : F.nodes[id]? = none) : F.Agrees m id := by
  intro s _ _
  have hkids : F.childrenOf id = [] := by rw [childrenOf, hn]
  rw [visit_missing hn, treeIn_eq, hkids]
  simp [Rose.process, Rose.processAll, placeIn, hn, SideFilter.admits]

theorem agrees_excluded {id : Nat} {node : Node} (hn : F.nodes[id]? = some node)
    (hside : node.side.admits m = false) : F.Agrees m id := by
  intro s _ _
  rw [visit_excluded hn hside, treeIn_eq, placeIn_eq hn, Rose.process]
  simp [hside]

/-- Once the node has done its own step, its children are walked as the reference walks them. -/
theorem processAll_children {id : Nat} (ih : ∀ c ∈ F.childrenOf id, F.Agrees m c) {s : WalkState}
    (nodup : (F.below id).Nodup) (bound : ∀ j ∈ F.below id, j < s.counters.size) (node : Node)
    {s' : WalkState} (hs' : s' = (F.perform m id node s).2) :
    Rose.processAll m ((F.childrenOf id).map (F.treeIn s.counters)) s'.targets s'.rng =
      ((F.childrenOf id).map (F.treeIn (F.visitAll m (F.childrenOf id) s').counters),
        (F.visitAll m (F.childrenOf id) s').targets,
        (F.visitAll m (F.childrenOf id) s').rng) := by
  subst hs'
  rw [below_eq] at nodup bound
  obtain ⟨hself, nodupBelow⟩ := List.nodup_cons.1 nodup
  rw [← map_treeIn_perform hself node s]
  refine processAll_treeIn ih _ nodupBelow fun j hj => ?_
  rw [perform_counters_size]
  exact bound j (List.mem_cons_of_mem id hj)

/-- The own step of a node that takes part in the moment is the one that the reference walk makes. -/
theorem agrees_admitted {id : Nat} {node : Node} (hn : F.nodes[id]? = some node)
    (hside : node.side.admits m = true) (ih : ∀ c ∈ F.childrenOf id, F.Agrees m c) :
    F.Agrees m id := by
  intro s nodup bound
  have hself : id ∉ (F.childrenOf id).flatMap F.below := by
    rw [below_eq] at nodup
    exact (List.nodup_cons.1 nodup).1
  rw [treeIn_eq, visit_admitted hn hside, placeIn_eq hn, Rose.process]
  cases hb : F.behaviorOf node with
  | none =>
    have hstep : F.perform m id node s = (true, s) := by simp [perform, hb]
    have children := processAll_children ih nodup bound node (congrArg (·.2) hstep.symm)
    rw [hstep]
    simp only [hside, if_true, children, treeIn_visitAll_children hself, placeIn_eq hn, hb]
  | some behavior =>
    cases behavior with
    | effect effect =>
      have hstep : F.perform m id node s =
          (true, { s with targets := (effect.perform? m s.targets).getD s.targets }) := by
        simp [perform, hb]
      have children := processAll_children ih nodup bound node (congrArg (·.2) hstep.symm)
      rw [hstep]
      simp only at children
      simp only [hside, if_true, children, treeIn_visitAll_children hself, placeIn_eq hn, hb]
    | gate gate =>
      have hid : id < s.counters.size := bound id (by rw [below_eq]; exact List.mem_cons_self)
      generalize hverdict : gate.judge (s.counters[id]?.getD 0) m s.rng = verdict
      have hstep : F.perform m id node s =
          (!verdict.skips, { s with
            counters := s.counters.setIfInBounds id verdict.counter
            rng := verdict.rng }) := by
        simp [perform, hb, hverdict]
      have hcounter : (s.counters.setIfInBounds id verdict.counter)[id]?.getD 0 =
          verdict.counter := by
        simp [hid]
      cases hskips : verdict.skips with
      | true =>
        -- the walk turns back, and only the counter of the gate has changed
        have unchanged := map_treeIn_perform hself node s (m := m)
        rw [hstep] at unchanged ⊢
        simp only at unchanged
        simp only [hside, if_true, hverdict, hskips, Bool.not_true, Bool.false_eq_true, if_false,
          hb, F.treeIn_eq _ id, placeIn_eq hn, hcounter, unchanged]
      | false =>
        have children := processAll_children ih nodup bound node (congrArg (·.2) hstep.symm)
        rw [hstep]
        simp only at children
        simp only [hside, if_true, hverdict, hskips, Bool.not_false, Bool.false_eq_true, if_false,
          children, treeIn_visitAll_children hself, placeIn_eq hn, hb, hcounter]

/-- Every tree of the table is walked as the reference walks it. -/
theorem agrees (F : Forest) (m : Moment) (id : Nat) : F.Agrees m id := by
  induction id using F.childrenInduction with
  | step id ih =>
    cases hn : F.nodes[id]? with
    | none => exact agrees_missing hn
    | some node =>
      cases hside : node.side.admits m with
      | false => exact agrees_excluded hn hside
      | true => exact agrees_admitted hn hside ih

/-! ## Runs -/

theorem shape_withCounters (F : Forest) (counters : Array UInt32) (id : Nat) :
    shape { F with counters := counters } id = F.shape id := by
  induction id using F.childrenInduction with
  | step id ih =>
    rw [shape_eq, shape_eq]
    congr 1
    exact List.map_congr_left ih

theorem treeIn_withCounters (F : Forest) (counters c : Array UInt32) (id : Nat) :
    treeIn { F with counters := counters } c id = F.treeIn c id := by
  rw [treeIn, treeIn, shape_withCounters]
  rfl

theorem trees_run (F : Forest) (m : Moment) (targets : Targets) (rng : Stream) :
    (F.run m targets rng).1.trees =
      F.roots.map (F.treeIn (F.walk m ⟨F.counters, targets, rng⟩).counters) :=
  List.map_congr_left fun id _ => F.treeIn_withCounters _ _ id

/-- A run of a planted forest does what the reference walk does to its trees. -/
theorem Planted.processAll_trees (h : F.Planted) (m : Moment) (targets : Targets) (rng : Stream) :
    Rose.processAll m F.trees targets rng =
      ((F.run m targets rng).1.trees, (F.run m targets rng).2) := by
  rw [trees_run]
  refine processAll_treeIn (fun id _ => F.agrees m id) ⟨F.counters, targets, rng⟩
    h.nodup_below_roots fun j hj => ?_
  rw [h.counted]
  exact h.lt_size_of_mem_below hj

/-- The trees of a planted forest show the counter of every node, once. -/
theorem Planted.places_perm (h : F.Planted) :
    ((F.trees.flatMap Rose.preorder).map fun p => (p.id, p.counter)).Perm
      ((List.range F.size).map fun id => (id, F.counter id)) := by
  have shown : (F.trees.flatMap Rose.preorder).map (fun p => (p.id, p.counter)) =
      (F.roots.flatMap F.below).map fun id => (id, F.counter id) := by
    rw [trees, List.flatMap_map, List.map_flatMap, List.map_flatMap]
    refine List.flatMap_congr fun id _ => ?_
    rw [treeIn, Rose.preorder_map, List.map_map]
    rfl
  rw [shown]
  exact h.below_roots.map _

/-- Running a built forest is the reference walk of its trees: the targets, the random words and the
trees with their counters are the same, and the trees show every node with its counter, once. The run
stops at no node twice. It stops at every root, and at a child exactly if it went on at the parent:
a skip is felt below the node that skips and nowhere else. It turns back only at nodes that do not
take part and at gates. -/
theorem run_build (label : String) (ops : List Op) (m : Moment) (targets : Targets)
    (rng : Stream) :
    let F := build label ops
    let stops := F.runStops m targets rng
    let after := (F.run m targets rng).1
    Rose.processAll m F.trees targets rng = (after.trees, (F.run m targets rng).2) ∧
    ((after.trees.flatMap Rose.preorder).map fun p => (p.id, p.counter)).Perm
      ((List.range F.size).map fun id => (id, after.counter id)) ∧
    (stops.map (·.id)).Nodup ∧
    (∀ root ∈ F.roots, ∃ goesOn, ⟨root, goesOn⟩ ∈ stops) ∧
    (∀ parent, ∀ child ∈ F.childrenOf parent,
      (∃ goesOn, ⟨child, goesOn⟩ ∈ stops) ↔ ⟨parent, true⟩ ∈ stops) ∧
    ∀ id, ⟨id, false⟩ ∈ stops → ∃ node, F.nodes[id]? = some node ∧
      (node.side.admits m = false ∨ ∃ gate, F.behaviorOf node = some (.gate gate)) := by
  have h := planted_build label ops
  refine ⟨h.processAll_trees m targets rng, (h.run m targets rng).places_perm,
    h.nodup_stops m targets rng, fun root hroot => h.mem_stops_root m targets rng hroot,
    fun parent child hchild => ?_, fun id hid => ?_⟩
  · exact h.mem_stops_child m targets rng hchild
  · obtain ⟨root, -, s, hstop, -⟩ := exists_of_mem_stopsAll hid
    exact exists_cause_of_mem_stops hstop

end Forest

end Masquerade
