import Masquerade.Proofs.Logic.Steps

/-!
# Stops of a walk

A walk stops at nodes in an order, and at each of them it goes on to the children or turns back. In a
planted forest a walk stops at no node twice (`Planted.nodup_stops`). It stops at all roots, and at a
child exactly if it went on at the parent (`Planted.mem_stops_child`), so that a node that is passed
over was cut off above and never beside it. What the steps do to a part of the state, a walk does to it in
the order of its stops (`StepsAs.run`).
-/

namespace Masquerade

open RandomWords (Stream)

/-- A node at which a walk stops, and whether it goes on to the children. -/
structure Stop where
  id : Nat
  goesOn : Bool
  deriving DecidableEq

namespace Forest

mutual

/-- The stops of the walk of a tree of positions. -/
def treeStops (F : Forest) (m : Moment) : Rose Nat → WalkState → List Stop
  | .node id below, s =>
    match F.nodes[id]? with
    | none => []
    | some node =>
      if node.side.admits m then
        match F.perform m id node s with
        | (true, s) => ⟨id, true⟩ :: treesStops F m below s
        | (false, _) => [⟨id, false⟩]
      else
        [⟨id, false⟩]

/-- The stops of the walk of several trees, each in the state in which the walk of the last one
ended. -/
def treesStops (F : Forest) (m : Moment) : List (Rose Nat) → WalkState → List Stop
  | [], _ => []
  | t :: rest, s => treeStops F m t s ++ treesStops F m rest (F.visit m t.label s)

end

/-- The stops of the walk of the trees at `ids`. -/
def stopsAll (F : Forest) (m : Moment) (ids : List Nat) (s : WalkState) : List Stop :=
  F.treesStops m (ids.map F.shape) s

/-- The stops of the walk of the tree at `id`. -/
def stops (F : Forest) (m : Moment) (id : Nat) (s : WalkState) : List Stop :=
  F.treeStops m (F.shape id) s

/-- The stops of a run of the forest. -/
def runStops (F : Forest) (m : Moment) (targets : Targets) (rng : Stream) : List Stop :=
  F.stopsAll m F.roots ⟨F.counters, targets, rng⟩

variable {F : Forest} {m : Moment}

theorem label_shape (F : Forest) (id : Nat) : (F.shape id).label = id := by
  rw [shape_eq, Rose.label]

@[simp] theorem stopsAll_cons (F : Forest) (m : Moment) (id : Nat) (ids : List Nat)
    (s : WalkState) :
    F.stopsAll m (id :: ids) s = F.stops m id s ++ F.stopsAll m ids (F.visit m id s) := by
  rw [stopsAll, List.map_cons, treesStops, label_shape]
  rfl

theorem stops_missing {id : Nat} (h : F.nodes[id]? = none) (s : WalkState) :
    F.stops m id s = [] := by
  rw [stops, shape_eq, treeStops, h]

theorem stops_excluded {id : Nat} {node : Node} (h : F.nodes[id]? = some node)
    (hside : node.side.admits m = false) (s : WalkState) : F.stops m id s = [⟨id, false⟩] := by
  rw [stops, shape_eq, treeStops, h]
  simp [hside]

theorem stops_admitted {id : Nat} {node : Node} (h : F.nodes[id]? = some node)
    (hside : node.side.admits m = true) (s : WalkState) :
    F.stops m id s =
      if (F.perform m id node s).1 then
        ⟨id, true⟩ :: F.stopsAll m (F.childrenOf id) (F.perform m id node s).2
      else
        [⟨id, false⟩] := by
  rw [stops, shape_eq, treeStops, h]
  simp only [hside, if_true]
  rcases F.perform m id node s with ⟨_ | _, s'⟩ <;> rfl

/-- The walk of a tree stops nowhere, at its node only, or at its node and then at its children. -/
theorem stops_cases (F : Forest) (m : Moment) (id : Nat) (s : WalkState) :
    F.stops m id s = [] ∨ F.stops m id s = [⟨id, false⟩] ∨
      ∃ s', F.stops m id s = ⟨id, true⟩ :: F.stopsAll m (F.childrenOf id) s' := by
  cases hn : F.nodes[id]? with
  | none => exact .inl (stops_missing hn s)
  | some node =>
    cases hside : node.side.admits m with
    | false => exact .inr (.inl (stops_excluded hn hside s))
    | true =>
      rw [stops_admitted hn hside]
      split
      · exact .inr (.inr ⟨_, rfl⟩)
      · exact .inr (.inl rfl)

/-- The walk of a tree stops at its node first. -/
theorem exists_stop_self {id : Nat} (h : id < F.size) (s : WalkState) :
    ∃ goesOn, ⟨id, goesOn⟩ ∈ F.stops m id s := by
  obtain ⟨node, hn⟩ : ∃ node, F.nodes[id]? = some node := ⟨_, Array.getElem?_eq_getElem h⟩
  cases hside : node.side.admits m with
  | false => exact ⟨false, by simp [stops_excluded hn hside]⟩
  | true =>
    rw [stops_admitted hn hside]
    split
    · exact ⟨true, List.mem_cons_self⟩
    · exact ⟨false, List.mem_cons_self⟩

/-- Every tree is walked in some state. -/
theorem exists_stops_subset {ids : List Nat} {c : Nat} (hc : c ∈ ids) (s : WalkState) :
    ∃ s', F.stops m c s' ⊆ F.stopsAll m ids s := by
  induction ids generalizing s with
  | nil => cases hc
  | cons id rest ih =>
    rw [stopsAll_cons]
    rcases List.mem_cons.1 hc with rfl | hc
    · exact ⟨s, List.subset_append_left _ _⟩
    · obtain ⟨s', h⟩ := ih hc (F.visit m id s)
      exact ⟨s', List.Subset.trans h (List.subset_append_right _ _)⟩

/-- A stop of the walk of several trees is a stop of the walk of one of them. -/
theorem exists_of_mem_stopsAll {ids : List Nat} {x : Stop} {s : WalkState}
    (hx : x ∈ F.stopsAll m ids s) :
    ∃ c ∈ ids, ∃ s', x ∈ F.stops m c s' ∧ F.stops m c s' ⊆ F.stopsAll m ids s := by
  induction ids generalizing s with
  | nil => cases hx
  | cons id rest ih =>
    rw [stopsAll_cons] at hx ⊢
    rcases List.mem_append.1 hx with hx | hx
    · exact ⟨id, List.mem_cons_self, s, hx, List.subset_append_left _ _⟩
    · obtain ⟨c, hc, s', hx, hsub⟩ := ih hx
      exact ⟨c, List.mem_cons_of_mem id hc, s', hx,
        List.Subset.trans hsub (List.subset_append_right _ _)⟩

/-! ## No node twice -/

theorem stopsAll_sublist {ids : List Nat}
    (h : ∀ c ∈ ids, ∀ s, ((F.stops m c s).map (·.id)).Sublist (F.below c)) (s : WalkState) :
    ((F.stopsAll m ids s).map (·.id)).Sublist (ids.flatMap F.below) := by
  induction ids generalizing s with
  | nil => exact List.nil_sublist _
  | cons c rest ih =>
    rw [stopsAll_cons, List.map_append, List.flatMap_cons]
    exact (h c List.mem_cons_self s).append
      (ih (fun d hd => h d (List.mem_cons_of_mem c hd)) (F.visit m c s))

/-- A walk stops at nodes of its tree, in their order. -/
theorem stops_sublist (F : Forest) (m : Moment) (id : Nat) (s : WalkState) :
    ((F.stops m id s).map (·.id)).Sublist (F.below id) := by
  induction id using F.childrenInduction generalizing s with
  | step id ih =>
    rw [below_eq]
    obtain h | h | ⟨s', h⟩ := F.stops_cases m id s
    · rw [h]
      exact List.nil_sublist _
    · rw [h]
      exact (List.nil_sublist _).cons_cons id
    · rw [h]
      exact (stopsAll_sublist ih s').cons_cons id

theorem Planted.nodup_stops (h : F.Planted) (m : Moment) (targets : Targets) (rng : Stream) :
    ((F.runStops m targets rng).map (·.id)).Nodup :=
  (stopsAll_sublist (fun c _ s => F.stops_sublist m c s) _).nodup h.nodup_below_roots

/-! ## Skips are local -/

/-- The walk of a tree stops at a node below its topmost one only if it went on at a parent. -/
theorem exists_parent_of_mem_stops {id : Nat} {x : Stop} {s : WalkState}
    (hx : x ∈ F.stops m id s) (hne : x.id ≠ id) :
    ∃ p, ⟨p, true⟩ ∈ F.stops m id s ∧ x.id ∈ F.childrenOf p := by
  induction id using F.childrenInduction generalizing s with
  | step id ih =>
    obtain h | h | ⟨s', h⟩ := F.stops_cases m id s
    · simp [h] at hx
    · rw [h, List.mem_singleton] at hx
      exact absurd (by rw [hx]) hne
    · rw [h] at hx ⊢
      rcases List.mem_cons.1 hx with rfl | hx
      · exact absurd rfl hne
      · obtain ⟨c, hc, s'', hx, hsub⟩ := exists_of_mem_stopsAll hx
        -- the stop is at a child of this node, or further below in the tree of a child
        by_cases hxc : x.id = c
        · exact ⟨id, List.mem_cons_self, hxc ▸ hc⟩
        · obtain ⟨p, hp, hchild⟩ := ih c hc hx hxc
          exact ⟨p, List.mem_cons_of_mem _ (hsub hp), hchild⟩

/-- Where the walk of a tree goes on, it stops at every child. -/
theorem exists_stop_child {id p c : Nat} {s : WalkState} (hp : ⟨p, true⟩ ∈ F.stops m id s)
    (hc : c ∈ F.childrenOf p) (hlt : c < F.size) : ∃ goesOn, ⟨c, goesOn⟩ ∈ F.stops m id s := by
  induction id using F.childrenInduction generalizing s with
  | step id ih =>
    obtain h | h | ⟨s', h⟩ := F.stops_cases m id s
    · simp [h] at hp
    · simp [h] at hp
    · rw [h] at hp ⊢
      rcases List.mem_cons.1 hp with hp | hp
      · obtain rfl : p = id := congrArg Stop.id hp
        obtain ⟨s'', hsub⟩ := exists_stops_subset hc s'
        obtain ⟨goesOn, hself⟩ := exists_stop_self hlt s''
        exact ⟨goesOn, List.mem_cons_of_mem _ (hsub hself)⟩
      · obtain ⟨d, hd, s'', hp, hsub⟩ := exists_of_mem_stopsAll hp
        obtain ⟨goesOn, hchild⟩ := ih d hd hp
        exact ⟨goesOn, List.mem_cons_of_mem _ (hsub hchild)⟩

/-- Only a gate can turn a walk back. -/
theorem exists_gate_of_perform {id : Nat} {node : Node} {s : WalkState}
    (h : (F.perform m id node s).1 = false) : ∃ gate, F.behaviorOf node = some (.gate gate) := by
  unfold perform at h
  split at h
  · next gate hb => exact ⟨gate, hb⟩
  · cases h
  · cases h

/-- A walk turns back only at nodes that do not take part and at gates. -/
theorem exists_cause_of_mem_stops {id x : Nat} {s : WalkState}
    (hx : ⟨x, false⟩ ∈ F.stops m id s) :
    ∃ node, F.nodes[x]? = some node ∧
      (node.side.admits m = false ∨ ∃ gate, F.behaviorOf node = some (.gate gate)) := by
  induction id using F.childrenInduction generalizing s with
  | step id ih =>
    cases hn : F.nodes[id]? with
    | none => simp [stops_missing hn] at hx
    | some node =>
      cases hside : node.side.admits m with
      | false =>
        rw [stops_excluded hn hside, List.mem_singleton] at hx
        obtain rfl : x = id := congrArg Stop.id hx
        exact ⟨node, hn, .inl hside⟩
      | true =>
        rw [stops_admitted hn hside] at hx
        split at hx
        · rcases List.mem_cons.1 hx with hx | hx
          · cases hx
          · obtain ⟨c, hc, s', hx, -⟩ := exists_of_mem_stopsAll hx
            exact ih c hc hx
        · next hskip =>
          rw [List.mem_singleton] at hx
          obtain rfl : x = id := congrArg Stop.id hx
          exact ⟨node, hn, .inr (exists_gate_of_perform (Bool.eq_false_iff.2 hskip))⟩

/-- A run stops at every root. -/
theorem Planted.mem_stops_root (h : F.Planted) (m : Moment) (targets : Targets) (rng : Stream)
    {root : Nat} (hroot : root ∈ F.roots) :
    ∃ goesOn, ⟨root, goesOn⟩ ∈ F.runStops m targets rng := by
  obtain ⟨s, hsub⟩ := exists_stops_subset hroot ⟨F.counters, targets, rng⟩
  obtain ⟨goesOn, hself⟩ := exists_stop_self (h.lt_size_root hroot) s
  exact ⟨goesOn, hsub hself⟩

/-- A run stops at a child exactly if it went on at the parent. -/
theorem Planted.mem_stops_child (h : F.Planted) (m : Moment) (targets : Targets) (rng : Stream)
    {p c : Nat} (hc : c ∈ F.childrenOf p) :
    (∃ goesOn, ⟨c, goesOn⟩ ∈ F.runStops m targets rng) ↔ ⟨p, true⟩ ∈ F.runStops m targets rng := by
  constructor
  · rintro ⟨goesOn, hmem⟩
    obtain ⟨root, hroot, s, hx, hsub⟩ := exists_of_mem_stopsAll hmem
    -- a child is no root, so its stop has a parent, and there is only one
    have hne : c ≠ root := by
      rintro rfl
      exact h.root_not_child hroot hc
    obtain ⟨q, hq, hcq⟩ := exists_parent_of_mem_stops hx hne
    rw [h.parent_unique hc hcq]
    exact hsub hq
  · intro hp
    obtain ⟨root, hroot, s, hx, hsub⟩ := exists_of_mem_stopsAll hp
    obtain ⟨goesOn, hchild⟩ := exists_stop_child hx hc (h.lt_size_child hc)
    exact ⟨goesOn, hsub hchild⟩

/-! ## Walks as folds over their stops -/

section Folds

variable {α : Type} {view : WalkState → α} {act : Nat → α → α}

/-- A part of the state to which every step of a walk at a moment does `act`. Nodes that do not take part
in the moment do nothing to it. -/
structure StepsAs (F : Forest) (m : Moment) (view : WalkState → α) (act : Nat → α → α) : Prop where
  admitted (id : Nat) (node : Node) (h : F.nodes[id]? = some node) (side : node.side.admits m = true)
    (s : WalkState) : view (F.perform m id node s).2 = act id (view s)
  excluded (id : Nat) (node : Node) (h : F.nodes[id]? = some node) (side : node.side.admits m = false)
    (a : α) : act id a = a

theorem visitAll_fold_of_visit {ids : List Nat}
    (h : ∀ id ∈ ids, ∀ s, view (F.visit m id s) =
      (F.stops m id s).foldl (fun a x => act x.id a) (view s)) (s : WalkState) :
    view (F.visitAll m ids s) = (F.stopsAll m ids s).foldl (fun a x => act x.id a) (view s) := by
  induction ids generalizing s with
  | nil => rfl
  | cons id rest ih =>
    have first := h id List.mem_cons_self s
    have later := ih (fun c hc => h c (List.mem_cons_of_mem id hc)) (F.visit m id s)
    rw [visitAll_cons, stopsAll_cons, List.foldl_append, later, first]

/-- What the steps do to a part of the state, the walk of a tree does to it in the order of its stops. -/
theorem StepsAs.visit (h : F.StepsAs m view act) (id : Nat) (s : WalkState) :
    view (F.visit m id s) = (F.stops m id s).foldl (fun a x => act x.id a) (view s) := by
  induction id using F.childrenInduction generalizing s with
  | step id ih =>
    cases hn : F.nodes[id]? with
    | none =>
      rw [visit_missing hn, stops_missing hn]
      rfl
    | some node =>
      cases hside : node.side.admits m with
      | false =>
        rw [visit_excluded hn hside, stops_excluded hn hside]
        exact (h.excluded id node hn hside (view s)).symm
      | true =>
        -- the step of the node itself comes before the trees below
        have own := h.admitted id node hn hside s
        rw [visit_admitted hn hside, stops_admitted hn hside]
        split
        · rw [visitAll_fold_of_visit (fun c hc s => ih c hc s), own]
          rfl
        · exact own

theorem StepsAs.run (h : F.StepsAs m view act) (targets : Targets) (rng : Stream) :
    view (F.walk m ⟨F.counters, targets, rng⟩) =
      (F.runStops m targets rng).foldl (fun a x => act x.id a) (view ⟨F.counters, targets, rng⟩) :=
  visitAll_fold_of_visit (fun id _ s => h.visit id s) _

end Folds

end Forest

end Masquerade
