import Mathlib.Data.List.Nodup
import Masquerade.Proofs.Logic.ReferenceWalk
import Masquerade.Proofs.Logic.Reset

/-!
# Pruned forests

A gate that skips at a moment keeps the walk from everything below it, so nothing that stands there can
be felt. `prune` deletes the nodes below all gates of a kind, and closes the gaps that they leave in the
tables. If these gates skip at a moment, then a run of the pruned forest does what a run of the forest
does, and the forest that it leaves is the pruned one of the forest that the other leaves
(`Planted.run_prune`).
-/

namespace Masquerade

open RandomWords (Stream)

/-! ## Gates that skip -/

/-- Whether a battle has moments of the phase. -/
def Phase.inBattle : Phase → Bool
  | battleStart | attackModify | damageApplied | battleEnd => true
  | bind | persistentGrowth | description => false

/-- Whether the gate is one that skips in every phase of a battle, for its phase is no such phase. -/
def Gate.offBattle : Gate → Bool
  | ⟨.phase .bind, false⟩ | ⟨.phase .persistentGrowth, false⟩ | ⟨.phase .description, false⟩ => true
  | _ => false

/-- Whether the gate is one that skips when growth is settled, for it waits for another phase. -/
def Gate.offGrowth : Gate → Bool
  | ⟨.phase .persistentGrowth, _⟩ => false
  | ⟨.phase _, false⟩ | ⟨.battleStart, false⟩ | ⟨.battleEnd, false⟩ => true
  | _ => false

/-- The gates of a kind skip at the moment, whatever they have counted. -/
def Moment.Shuts (m : Moment) (shut : Gate → Bool) : Prop :=
  ∀ g, shut g = true → ∀ counter rng, (g.judge counter m rng).skips = true

theorem Gate.judge_phase_skips {m : Moment} {p : Phase} (awake : m.phase ≠ .description)
    (other : m.phase ≠ p) (counter : UInt32) (rng : Stream) :
    (judge ⟨.phase p, false⟩ counter m rng).skips = true := by
  rw [judge, if_neg awake]
  simp [answer, other]

theorem Moment.shuts_offBattle {m : Moment} (h : m.phase.inBattle = true) :
    m.Shuts Gate.offBattle := by
  have apart : ∀ p, p.inBattle = false → m.phase ≠ p := by
    rintro p hp rfl
    rw [h] at hp
    cases hp
  have awake := apart .description rfl
  intro g shut counter rng
  unfold Gate.offBattle at shut
  split at shut
  · exact Gate.judge_phase_skips awake (apart .bind rfl) counter rng
  · exact Gate.judge_phase_skips awake (apart .persistentGrowth rfl) counter rng
  · exact Gate.judge_phase_skips awake awake counter rng
  · cases shut

theorem Moment.shuts_offGrowth {m : Moment} (settling : m.phase = .persistentGrowth) :
    m.Shuts Gate.offGrowth := by
  intro g shut counter rng
  have awake : m.phase ≠ .description := by simp [settling]
  unfold Gate.offGrowth at shut
  split at shut
  · cases shut
  · next p other =>
    refine Gate.judge_phase_skips awake (fun same => ?_) counter rng
    exact other (by rw [← same, settling])
  · simp [Gate.judge, Gate.answer, settling]
  · simp [Gate.judge, Gate.answer, settling]
  · cases shut

namespace Forest

/-! ## Compaction -/

/-- The nodes to keep, in their order. -/
def keptIds (F : Forest) (keep : Nat → Bool) : List Nat := (List.range F.size).filter keep

/-- The position of a kept node among the kept ones. -/
def slot (F : Forest) (keep : Nat → Bool) (id : Nat) : Nat := (F.keptIds keep).idxOf id

variable {F : Forest} {keep : Nat → Bool} {shut : Gate → Bool} {m : Moment}

theorem mem_keptIds {id : Nat} : id ∈ F.keptIds keep ↔ id < F.size ∧ keep id = true := by
  rw [keptIds, List.mem_filter, List.mem_range]

theorem nodup_keptIds (F : Forest) (keep : Nat → Bool) : (F.keptIds keep).Nodup :=
  List.nodup_range.filter keep

theorem slot_eq_iff {id j : Nat} (h : id ∈ F.keptIds keep) :
    F.slot keep id = j ↔ (F.keptIds keep)[j]? = some id := by
  constructor
  · rintro rfl
    rw [slot, List.getElem?_eq_getElem (List.idxOf_lt_length_of_mem h), List.getElem_idxOf]
  · intro hj
    obtain ⟨hlt, rfl⟩ := List.getElem?_eq_some_iff.1 hj
    exact (F.nodup_keptIds keep).idxOf_getElem j hlt

/-- Later nodes have later slots. -/
theorem lt_slot {i id child : Nat} (hi : (F.keptIds keep)[i]? = some id)
    (hc : child ∈ F.keptIds keep) (h : id < child) : i < F.slot keep child := by
  obtain ⟨hlt, rfl⟩ := List.getElem?_eq_some_iff.1 hi
  obtain ⟨hslot, found⟩ := List.getElem?_eq_some_iff.1 ((slot_eq_iff hc).1 rfl)
  have sorted : (F.keptIds keep).Pairwise (· < ·) := List.pairwise_lt_range.filter keep
  by_contra hle
  rcases Nat.lt_or_eq_of_le (Nat.le_of_not_lt hle) with before | same
  · have := List.pairwise_iff_getElem.1 sorted _ i hslot hlt before
    omega
  · simp only [same] at found
    omega

/-- A node with its children at their slots. -/
def seat (F : Forest) (keep : Nat → Bool) (node : Node) : Node :=
  { node with children := (node.children.filter (· ∈ F.keptIds keep)).map (F.slot keep) }

/-- The forest of the nodes to keep. -/
def compact (F : Forest) (keep : Nat → Bool) : Forest where
  label := F.label
  behaviors := F.behaviors
  nodes := ((F.keptIds keep).map fun id => F.seat keep (F.nodes[id]?.getD {})).toArray
  roots := (F.roots.filter (· ∈ F.keptIds keep)).map (F.slot keep)
  counters := ((F.keptIds keep).map F.counter).toArray
  forward := by
    intro i node hn child hc
    rw [List.getElem?_toArray, List.getElem?_map] at hn
    obtain ⟨id, hi, rfl⟩ := Option.map_eq_some_iff.1 hn
    obtain ⟨c, hkept, rfl⟩ := List.mem_map.1 hc
    obtain ⟨hmem, kept⟩ := List.mem_filter.1 hkept
    refine lt_slot hi (of_decide_eq_true kept) ?_
    cases hnode : F.nodes[id]? with
    | none => simp [hnode] at hmem
    | some node => exact F.forward id node hnode c (by simpa [hnode] using hmem)

/-- What the kept nodes have counted. -/
def keptCounters (F : Forest) (keep : Nat → Bool) (counters : Array UInt32) : Array UInt32 :=
  ((F.keptIds keep).map fun id => counters[id]?.getD 0).toArray

theorem compact_withCounters (F : Forest) (keep : Nat → Bool) (counters : Array UInt32) :
    compact { F with counters := counters } keep =
      { F.compact keep with counters := F.keptCounters keep counters } :=
  rfl

theorem getElem?_slot {α : Type} (f : Nat → α) {id : Nat} (h : id ∈ F.keptIds keep) :
    ((F.keptIds keep).map f).toArray[F.slot keep id]? = some (f id) := by
  rw [List.getElem?_toArray, List.getElem?_map, (slot_eq_iff h).1 rfl]
  rfl

theorem compact_node {id : Nat} {node : Node} (h : id ∈ F.keptIds keep)
    (hn : F.nodes[id]? = some node) :
    (F.compact keep).nodes[F.slot keep id]? = some (F.seat keep node) := by
  refine (getElem?_slot _ h).trans ?_
  rw [hn]
  rfl

theorem compact_counter {id : Nat} (h : id ∈ F.keptIds keep) :
    (F.compact keep).counter (F.slot keep id) = F.counter id :=
  congrArg (·.getD 0) (getElem?_slot F.counter h)

theorem keptCounters_getElem? (F : Forest) (keep : Nat → Bool) (counters : Array UInt32) (j : Nat) :
    (F.keptCounters keep counters)[j]? =
      (F.keptIds keep)[j]?.map fun id => counters[id]?.getD 0 := by
  rw [keptCounters, List.getElem?_toArray, List.getElem?_map]

theorem keptCounters_set {id : Nat} (h : id ∈ F.keptIds keep) {counters : Array UInt32}
    (bound : id < counters.size) (v : UInt32) :
    F.keptCounters keep (counters.setIfInBounds id v) =
      (F.keptCounters keep counters).setIfInBounds (F.slot keep id) v := by
  refine Array.ext_getElem? fun j => ?_
  rw [Array.getElem?_setIfInBounds, keptCounters_getElem?, keptCounters_getElem?]
  by_cases here : F.slot keep id = j
  · have hj := (slot_eq_iff h).1 here
    have hlt : j < (F.keptCounters keep counters).size := by
      rw [keptCounters, List.size_toArray, List.length_map]
      exact (List.getElem?_eq_some_iff.1 hj).1
    rw [if_pos here, here, if_pos hlt, hj]
    simp [bound]
  · rw [if_neg here]
    cases hj : (F.keptIds keep)[j]? with
    | none => rfl
    | some other =>
      have apart : id ≠ other := by
        rintro rfl
        exact here ((slot_eq_iff h).2 hj)
      simp [Array.getElem?_setIfInBounds, apart]

/-! ## Walks -/

/-- Whether the node at `id` has a gate of the given kind. -/
def shutAt (F : Forest) (shut : Gate → Bool) (id : Nat) : Bool :=
  match F.nodes[id]?.bind F.behaviorOf with
  | some (.gate gate) => shut gate
  | _ => false

/-- The kept nodes hold every root, and every child of a kept node at which a walk may go on. -/
structure Closed (F : Forest) (shut : Gate → Bool) (keep : Nat → Bool) : Prop where
  root : ∀ root ∈ F.roots, root ∈ F.keptIds keep
  child : ∀ id ∈ F.keptIds keep, F.shutAt shut id = false →
    ∀ c ∈ F.childrenOf id, c ∈ F.keptIds keep

/-- The state of a walk of the forest, with what the kept nodes have counted. -/
def keptState (F : Forest) (keep : Nat → Bool) (s : WalkState) : WalkState :=
  { s with counters := F.keptCounters keep s.counters }

theorem perform_compact {id : Nat} (h : id ∈ F.keptIds keep) (node : Node) {s : WalkState}
    (sized : s.counters.size = F.size) :
    (F.compact keep).perform m (F.slot keep id) (F.seat keep node) (F.keptState keep s) =
      ((F.perform m id node s).1, F.keptState keep (F.perform m id node s).2) := by
  have same : (F.compact keep).behaviorOf (F.seat keep node) = F.behaviorOf node := rfl
  have bound : id < s.counters.size := by
    rw [sized]
    exact (mem_keptIds.1 h).1
  have counted : (F.keptCounters keep s.counters)[F.slot keep id]?.getD 0 =
      s.counters[id]?.getD 0 := by
    rw [keptCounters, getElem?_slot _ h]
    rfl
  rw [perform, perform, same]
  cases F.behaviorOf node with
  | none => rfl
  | some behavior =>
    cases behavior with
    | effect effect => rfl
    | gate gate => simp only [keptState, counted, keptCounters_set h bound]

/-- The walk turns back at a gate that is shut. -/
theorem perform_shut (shuts : m.Shuts shut) {id : Nat} {node : Node}
    (hn : F.nodes[id]? = some node) (h : F.shutAt shut id = true) (s : WalkState) :
    (F.perform m id node s).1 = false := by
  rw [shutAt, hn, Option.bind_some] at h
  rw [perform]
  split at h
  · next gate hb =>
    rw [hb]
    simp [shuts gate h]
  · cases h

theorem childrenOf_compact {id : Nat} {node : Node} (h : id ∈ F.keptIds keep)
    (hn : F.nodes[id]? = some node) (all : ∀ c ∈ F.childrenOf id, c ∈ F.keptIds keep) :
    (F.compact keep).childrenOf (F.slot keep id) = (F.childrenOf id).map (F.slot keep) := by
  rw [childrenOf_eq hn] at all ⊢
  rw [childrenOf_eq (compact_node h hn), seat]
  show (node.children.filter _).map _ = _
  rw [List.filter_eq_self.2 fun c hc => decide_eq_true (all c hc)]

theorem visitAll_compact_of_visit {ids : List Nat}
    (h : ∀ id ∈ ids, ∀ s : WalkState, s.counters.size = F.size →
      (F.compact keep).visit m (F.slot keep id) (F.keptState keep s) =
        F.keptState keep (F.visit m id s))
    {s : WalkState} (sized : s.counters.size = F.size) :
    (F.compact keep).visitAll m (ids.map (F.slot keep)) (F.keptState keep s) =
      F.keptState keep (F.visitAll m ids s) := by
  induction ids generalizing s with
  | nil => rfl
  | cons id rest ih =>
    rw [List.map_cons, visitAll_cons, visitAll_cons, h id List.mem_cons_self s sized]
    exact ih (fun c hc => h c (List.mem_cons_of_mem id hc)) ((F.visit_counters_size m id s).trans sized)

/-- The walk of a kept tree goes on alike whether nodes below shut gates are there or not. -/
theorem visit_compact (closed : F.Closed shut keep) (shuts : m.Shuts shut) {id : Nat}
    (h : id ∈ F.keptIds keep) {s : WalkState} (sized : s.counters.size = F.size) :
    (F.compact keep).visit m (F.slot keep id) (F.keptState keep s) =
      F.keptState keep (F.visit m id s) := by
  induction id using F.childrenInduction generalizing s with
  | step id ih =>
    obtain ⟨node, hn⟩ : ∃ node, F.nodes[id]? = some node :=
      ⟨_, Array.getElem?_eq_getElem (mem_keptIds.1 h).1⟩
    have hn' := compact_node h hn
    cases hside : node.side.admits m with
    | false => rw [visit_excluded hn hside, visit_excluded hn' hside]
    | true =>
      rw [visit_admitted hn hside, visit_admitted hn' hside, perform_compact h node sized]
      dsimp only
      split
      · next on =>
        -- the gate of this node is not shut, so its children are kept
        have opened : F.shutAt shut id = false := by
          by_contra isShut
          have off := perform_shut shuts hn (eq_true_of_ne_false isShut) s
          rw [off] at on
          cases on
        have all := closed.child id h opened
        rw [childrenOf_compact h hn all]
        refine visitAll_compact_of_visit (fun c hc s sized => ih c hc (all c hc) sized) ?_
        rw [perform_counters_size, sized]
      · rfl

/-- A run of the compacted forest leaves the compacted forest of the one that a run leaves. -/
theorem run_compact (closed : F.Closed shut keep) (shuts : m.Shuts shut)
    (counted : F.counters.size = F.size) (targets : Targets) (rng : Stream) :
    (F.compact keep).run m targets rng =
      ((F.run m targets rng).1.compact keep, (F.run m targets rng).2) := by
  have roots : (F.compact keep).roots = F.roots.map (F.slot keep) :=
    congrArg (·.map (F.slot keep))
      (List.filter_eq_self.2 fun root hroot => decide_eq_true (closed.root root hroot))
  have walked : (F.compact keep).walk m ⟨(F.compact keep).counters, targets, rng⟩ =
      F.keptState keep (F.walk m ⟨F.counters, targets, rng⟩) := by
    rw [walk, roots]
    exact visitAll_compact_of_visit (s := ⟨F.counters, targets, rng⟩)
      (fun root hroot s sized => visit_compact closed shuts (closed.root root hroot) sized) counted
  rw [run, walked]
  rfl

/-! ## Pruning -/

/-- The nodes somewhere below a node with a gate of the given kind. -/
def cutOff (F : Forest) (shut : Gate → Bool) : List Nat :=
  ((List.range F.size).filter (F.shutAt shut)).flatMap fun id => (F.childrenOf id).flatMap F.below

/-- Whether the node at `id` stands below no gate of the given kind. -/
def stands (F : Forest) (shut : Gate → Bool) (id : Nat) : Bool := decide (id ∉ F.cutOff shut)

/-- The forest without the nodes below gates of the given kind. -/
def prune (F : Forest) (shut : Gate → Bool) : Forest := F.compact (F.stands shut)

theorem mem_cutOff {id : Nat} :
    id ∈ F.cutOff shut ↔ ∃ p, p < F.size ∧ F.shutAt shut p = true ∧
      ∃ c ∈ F.childrenOf p, id ∈ F.below c := by
  simp only [cutOff, List.mem_flatMap, List.mem_filter, List.mem_range, and_assoc]

/-- A node of a tree is its topmost one or a child of another. -/
theorem eq_or_exists_parent {id top : Nat} (h : id ∈ F.below top) :
    id = top ∨ ∃ p ∈ F.below top, id ∈ F.childrenOf p := by
  induction top using F.childrenInduction with
  | step top ih =>
    rw [below_eq] at h ⊢
    rcases List.mem_cons.1 h with same | h
    · exact .inl same
    · obtain ⟨c, hc, h⟩ := List.mem_flatMap.1 h
      right
      rcases ih c hc h with rfl | ⟨p, hp, hchild⟩
      · exact ⟨top, List.mem_cons_self, hc⟩
      · exact ⟨p, List.mem_cons_of_mem top (List.mem_flatMap.2 ⟨c, hc, hp⟩), hchild⟩

/-- A node is deleted only along with its parent, or as a child of a gate of the given kind. -/
theorem exists_parent_of_mem_cutOff {id : Nat} (h : id ∈ F.cutOff shut) :
    ∃ p, id ∈ F.childrenOf p ∧ (F.shutAt shut p = true ∨ p ∈ F.cutOff shut) := by
  obtain ⟨q, hq, isShut, c, hc, h⟩ := mem_cutOff.1 h
  rcases eq_or_exists_parent h with rfl | ⟨p, hp, hchild⟩
  · exact ⟨q, hc, .inl isShut⟩
  · exact ⟨p, hchild, .inr (mem_cutOff.2 ⟨q, hq, isShut, c, hc, hp⟩)⟩

theorem mem_kept_of_not_mem_cutOff {id : Nat} (hlt : id < F.size) (h : id ∉ F.cutOff shut) :
    id ∈ F.keptIds (F.stands shut) :=
  mem_keptIds.2 ⟨hlt, decide_eq_true h⟩

/-- A node that stays keeps what it has counted. -/
theorem prune_counter {id : Nat} (hlt : id < F.size) (h : id ∉ F.cutOff shut) :
    (F.prune shut).counter (F.slot (F.stands shut) id) = F.counter id :=
  compact_counter (mem_kept_of_not_mem_cutOff hlt h)

theorem Planted.closed (h : F.Planted) (shut : Gate → Bool) : F.Closed shut (F.stands shut) where
  root root hroot := by
    refine mem_kept_of_not_mem_cutOff (h.lt_size_root hroot) fun cut => ?_
    obtain ⟨p, hchild, -⟩ := exists_parent_of_mem_cutOff cut
    exact h.root_not_child hroot hchild
  child id hid opened c hc := by
    refine mem_kept_of_not_mem_cutOff (h.lt_size_child hc) fun cut => ?_
    obtain ⟨p, hchild, gone⟩ := exists_parent_of_mem_cutOff cut
    obtain rfl := h.parent_unique hc hchild
    rcases gone with isShut | gone
    · rw [opened] at isShut
      cases isShut
    · exact of_decide_eq_true (mem_keptIds.1 hid).2 gone

theorem stands_withCounters (F : Forest) (counters : Array UInt32) (shut : Gate → Bool) :
    stands { F with counters := counters } shut = F.stands shut := by
  have below : Forest.below { F with counters := counters } = F.below :=
    funext fun id => congrArg Rose.preorder (F.shape_withCounters counters id)
  funext id
  unfold stands cutOff
  rw [below]
  rfl

theorem prune_withCounters (F : Forest) (counters : Array UInt32) (shut : Gate → Bool) :
    prune { F with counters := counters } shut =
      compact { F with counters := counters } (F.stands shut) := by
  rw [prune, stands_withCounters]

/-- While the gates skip, a run of the pruned forest does what a run of the forest does, and leaves
the pruned forest of the one that this leaves. -/
theorem Planted.run_prune (h : F.Planted) (shuts : m.Shuts shut) (targets : Targets)
    (rng : Stream) :
    (F.prune shut).run m targets rng =
      ((F.run m targets rng).1.prune shut, (F.run m targets rng).2) := by
  rw [prune, run_compact (h.closed shut) shuts h.counted]
  congr 1
  exact (F.prune_withCounters _ shut).symm

theorem runAll_prune {forests : List Forest} (h : ∀ F ∈ forests, F.Planted)
    (shuts : m.Shuts shut) (targets : Targets) (rng : Stream) :
    runAll (forests.map (·.prune shut)) m targets rng =
      ((runAll forests m targets rng).1.map (·.prune shut), (runAll forests m targets rng).2) := by
  induction forests generalizing targets rng with
  | nil => rfl
  | cons F rest ih =>
    have first := (h F List.mem_cons_self).run_prune shuts targets rng
    have later := ih (fun G hG => h G (List.mem_cons_of_mem F hG))
      (F.run m targets rng).2.1 (F.run m targets rng).2.2
    simp only [List.map_cons, runAll, first, later]

theorem runAll_planted {forests : List Forest} (h : ∀ F ∈ forests, F.Planted) (m : Moment)
    (targets : Targets) (rng : Stream) :
    ∀ F ∈ (runAll forests m targets rng).1, F.Planted := by
  induction forests generalizing targets rng with
  | nil => simp [runAll]
  | cons F rest ih =>
    intro G hG
    rcases List.mem_cons.1 hG with rfl | hG
    · exact (h F List.mem_cons_self).run m targets rng
    · exact ih (fun K hK => h K (List.mem_cons_of_mem F hK)) _ _ G hG

theorem reset_prune (F : Forest) (shut : Gate → Bool) :
    (F.prune shut).reset = F.reset.prune shut := by
  have zeros : (F.compact (F.stands shut)).counters.map (fun _ => (0 : UInt32)) =
      F.keptCounters (F.stands shut) (F.counters.map fun _ => 0) := by
    refine Array.ext_getElem? fun j => ?_
    rw [Array.getElem?_map, keptCounters_getElem?, compact, List.getElem?_toArray,
      List.getElem?_map, Option.map_map]
    refine congrArg (Option.map · _) (funext fun id => ?_)
    exact (F.fresh_reset id).symm
  have forgotten : (F.prune shut).reset = compact F.reset (F.stands shut) := by
    refine Eq.trans ?_ (F.compact_withCounters (F.stands shut) (F.counters.map fun _ => 0)).symm
    rw [← zeros]
    rfl
  rw [forgotten]
  exact (F.prune_withCounters _ shut).symm

end Forest

end Masquerade
