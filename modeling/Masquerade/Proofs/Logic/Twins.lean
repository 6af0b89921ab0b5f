import Masquerade.Proofs.Logic.Building
import Masquerade.Proofs.Logic.Cadence

/-!
# Twins

Two forests are twins when they are the same but for one gate, which counts its calls in the one and
looks at the number of the attack in the other. The gate stands below a root that lets nothing but the
building of attacks through, so that it is asked in exactly the attacks that its side filter counts.
Walks of twins do the same to their targets, draw the same random words and count the same everywhere
else, and the counter of the one gate stays what the attacks so far have made it (`Twins.run`).
-/

namespace Masquerade

open RandomWords (Stream)

/-! ## Matched gates in place -/

/-- A node, its side filter, and two gates matched behind this filter that can stand there. -/
structure GateSwap where
  node : Nat
  side : SideFilter
  counting : Gate
  numbered : Gate
  matched : Gate.Matched side counting numbered

/-- What the gate that counts has counted after `k` attacks that the side filter counts. -/
def GateSwap.counted (w : GateSwap) (k : Nat) : UInt32 := w.counting.condition.counted k

/-- How many more attacks a side filter counts at a moment at which they are built. -/
def SideFilter.turns (side : SideFilter) (m : Moment) : Nat :=
  if m.phase = .attackModify ∧ side.admits m = true then 1 else 0

/-- The number of the attack that is built at a moment is the one after `k`, where a side filter counts
it. -/
def SideFilter.NumbersOn (side : SideFilter) (k : Nat) (m : Moment) : Prop :=
  m.phase = .attackModify → side.admits m = true →
    k + 1 < UInt32.size ∧ side.numberOf m = UInt32.ofNat (k + 1)

/-- What a walk looks up of a node. -/
structure NodeLogic where
  side : SideFilter
  children : List Nat
  behavior : Option Behavior

/-- Two arrays of counters that differ at one node at most, where the first holds `x`. -/
structure CountsOff (v : Nat) (x : UInt32) (xs ys : Array UInt32) : Prop where
  size : ys.size = xs.size
  others : ∀ id, id ≠ v → ys[id]? = xs[id]?
  own : xs[v]? = some x

/-- Two states of walks that differ in the counter of one node at most. -/
structure WalkState.Off (v : Nat) (x : UInt32) (s t : WalkState) : Prop where
  targets : t.targets = s.targets
  rng : t.rng = s.rng
  counters : CountsOff v x s.counters t.counters

/-- Both counters of another node may change alike. -/
theorem CountsOff.set_other {v id : Nat} {x : UInt32} {xs ys : Array UInt32}
    (h : CountsOff v x xs ys) (ne : id ≠ v) (a : UInt32) :
    CountsOff v x (xs.setIfInBounds id a) (ys.setIfInBounds id a) := by
  refine ⟨by simp [h.size], fun j hj => ?_, ?_⟩
  · rw [Array.getElem?_setIfInBounds, Array.getElem?_setIfInBounds, h.size, h.others j hj]
  · rw [Array.getElem?_setIfInBounds_ne ne, h.own]

/-- The counters of the node itself may change in any way. -/
theorem CountsOff.set_own {v : Nat} {x : UInt32} {xs ys : Array UInt32}
    (h : CountsOff v x xs ys) (a b : UInt32) :
    CountsOff v a (xs.setIfInBounds v a) (ys.setIfInBounds v b) := by
  have bound : v < xs.size := (Array.getElem?_eq_some_iff.1 h.own).1
  refine ⟨by simp [h.size], fun j hj => ?_, ?_⟩
  · rw [Array.getElem?_setIfInBounds_ne hj.symm, Array.getElem?_setIfInBounds_ne hj.symm,
      h.others j hj]
  · rw [Array.getElem?_setIfInBounds_self_of_lt bound]

namespace Forest

/-- What a walk looks up of the node at `id`. -/
def logicAt (F : Forest) (id : Nat) : Option NodeLogic :=
  F.nodes[id]?.map fun node => ⟨node.side, node.children, F.behaviorOf node⟩

/-- Two forests that are the same but for the gates of a swap, which stand below a root that lets
nothing but the building of attacks through. -/
structure Twins (w : GateSwap) (F G : Forest) : Prop where
  planted : F.Planted
  roots : G.roots = F.roots
  counters : G.counters.size = F.counters.size
  others : ∀ id, id ≠ w.node → G.logicAt id = F.logicAt id
  here : ∃ children, F.logicAt w.node = some ⟨w.side, children, some (.gate w.counting)⟩ ∧
    G.logicAt w.node = some ⟨w.side, children, some (.gate w.numbered)⟩
  behind : ∃ root ∈ F.roots, ∃ children, w.node ∈ children ∧
    F.logicAt root = some ⟨.both, children, some (.gate ⟨.phase .attackModify, false⟩)⟩

theorem exists_node_of_logicAt {F : Forest} {id : Nat} {logic : NodeLogic}
    (h : F.logicAt id = some logic) :
    ∃ node, F.nodes[id]? = some node ∧ node.side = logic.side ∧ node.children = logic.children ∧
      F.behaviorOf node = logic.behavior := by
  obtain ⟨node, hn, rfl⟩ := Option.map_eq_some_iff.1 h
  exact ⟨node, hn, rfl, rfl, rfl⟩

/-- No tree below a node leads back to the node. -/
theorem le_of_mem_below (F : Forest) {id j : Nat} (h : j ∈ F.below id) : id ≤ j := by
  induction id using F.childrenInduction with
  | step id ih =>
    rw [below_eq] at h
    rcases List.mem_cons.1 h with rfl | h
    · exact Nat.le_refl j
    · obtain ⟨c, hc, h⟩ := List.mem_flatMap.1 h
      exact Nat.le_trans (Nat.le_of_lt (lt_of_mem_childrenOf hc).1) (ih c hc h)

theorem not_mem_below_children (F : Forest) (id : Nat) :
    id ∉ (F.childrenOf id).flatMap F.below := by
  intro h
  obtain ⟨c, hc, h⟩ := List.mem_flatMap.1 h
  have after := (lt_of_mem_childrenOf hc).1
  have before := F.le_of_mem_below h
  omega

/-! ## Walks of trees -/

variable {F G : Forest} {m : Moment} {s t : WalkState} {v : Nat} {x : UInt32}

/-- Two forests are walked alike at nodes that differ in their behavior at most, if the behaviors are
performed alike and the trees below are walked alike. -/
theorem visit_alike_of_perform {R : WalkState → WalkState → Prop} {id : Nat} {node node' : Node}
    (hF : F.nodes[id]? = some node) (hG : G.nodes[id]? = some node')
    (side : node'.side = node.side) (children : node'.children = node.children)
    (excluded : node.side.admits m = false → R s t)
    (goesOn : (G.perform m id node' t).1 = (F.perform m id node s).1)
    (turned : node.side.admits m = true → (F.perform m id node s).1 = false →
      R (F.perform m id node s).2 (G.perform m id node' t).2)
    (below : node.side.admits m = true → (F.perform m id node s).1 = true →
      R (F.visitAll m node.children (F.perform m id node s).2)
        (G.visitAll m node.children (G.perform m id node' t).2)) :
    R (F.visit m id s) (G.visit m id t) := by
  cases hside : node.side.admits m with
  | false =>
    rw [visit_excluded hF hside, visit_excluded hG (side ▸ hside)]
    exact excluded hside
  | true =>
    rw [visit_admitted hF hside, visit_admitted hG (side ▸ hside), childrenOf_eq hF,
      childrenOf_eq hG, children, goesOn]
    split
    · next on => exact below hside on
    · next off => exact turned hside (Bool.eq_false_iff.2 off)

theorem visitAll_alike_of_visit {R : WalkState → WalkState → Prop} (ids : List Nat)
    (h : ∀ id ∈ ids, ∀ s t, R s t → R (F.visit m id s) (G.visit m id t)) (hst : R s t) :
    R (F.visitAll m ids s) (G.visitAll m ids t) := by
  induction ids generalizing s t with
  | nil => exact hst
  | cons id rest ih =>
    exact ih (fun c hc => h c (List.mem_cons_of_mem id hc)) (h id List.mem_cons_self s t hst)

/-- The same behavior at another node is performed alike. -/
theorem perform_off {id : Nat} (ne : id ≠ v) {node node' : Node}
    (behavior : G.behaviorOf node' = F.behaviorOf node) (off : WalkState.Off v x s t) :
    (G.perform m id node' t).1 = (F.perform m id node s).1 ∧
      WalkState.Off v x (F.perform m id node s).2 (G.perform m id node' t).2 := by
  rw [perform, perform, behavior, off.counters.others id ne, off.rng, off.targets]
  split
  · exact ⟨rfl, rfl, rfl, off.counters.set_other ne _⟩
  · exact ⟨rfl, rfl, rfl, off.counters⟩
  · exact ⟨rfl, off⟩

namespace Twins

variable {w : GateSwap}

/-- Trees without the node of the swap are walked alike. -/
theorem visit_other (T : F.Twins w G) {id : Nat} (outside : w.node ∉ F.below id)
    (off : WalkState.Off w.node x s t) :
    WalkState.Off w.node x (F.visit m id s) (G.visit m id t) := by
  induction id using F.childrenInduction generalizing s t with
  | step id ih =>
    rw [below_eq, List.mem_cons, not_or] at outside
    have ne : id ≠ w.node := fun h => outside.1 h.symm
    have same := T.others id ne
    cases hF : F.nodes[id]? with
    | none =>
      have hG : G.nodes[id]? = none := by simpa [logicAt, hF] using same
      rw [visit_missing hF, visit_missing hG]
      exact off
    | some node =>
      have there : F.logicAt id = some ⟨node.side, node.children, F.behaviorOf node⟩ := by
        rw [logicAt, hF]
        rfl
      obtain ⟨node', hG, side, children, behavior⟩ := exists_node_of_logicAt (same.trans there)
      obtain ⟨goesOn, after⟩ := perform_off (m := m) ne behavior off
      refine visit_alike_of_perform hF hG side children (fun _ => off) goesOn (fun _ _ => after)
        fun _ _ => visitAll_alike_of_visit _ (fun c hc s t h => ?_) after
      rw [childrenOf_eq hF] at ih outside
      exact ih c hc (fun below => outside.2 (List.mem_flatMap.2 ⟨c, hc, below⟩)) h

theorem visitAll_other (T : F.Twins w G) {ids : List Nat}
    (outside : w.node ∉ ids.flatMap F.below) (off : WalkState.Off w.node x s t) :
    WalkState.Off w.node x (F.visitAll m ids s) (G.visitAll m ids t) := by
  refine visitAll_alike_of_visit ids (fun id hid s t h => T.visit_other (fun below => ?_) h) off
  exact outside (List.mem_flatMap.2 ⟨id, hid, below⟩)

/-- In an attack that the side filter counts, the gates of the swap answer alike, and the one that counts
has then counted this call. -/
theorem perform_own {node node' : Node} (hF : F.behaviorOf node = some (.gate w.counting))
    (hG : G.behaviorOf node' = some (.gate w.numbered)) (attack : m.phase = .attackModify) {k : Nat}
    (bound : k + 1 < UInt32.size) (number : w.side.numberOf m = UInt32.ofNat (k + 1))
    (off : WalkState.Off w.node (w.counted k) s t) :
    (G.perform m w.node node' t).1 = (F.perform m w.node node s).1 ∧
      WalkState.Off w.node (w.counted (k + 1)) (F.perform m w.node node s).2
        (G.perform m w.node node' t).2 := by
  have own : s.counters[w.node]?.getD 0 = w.counting.condition.counted k := by
    rw [off.counters.own]
    rfl
  obtain ⟨skips, counting, numbered⟩ :=
    w.matched.judge attack bound number (t.counters[w.node]?.getD 0) s.rng
  rw [perform, perform, hF, hG]
  simp only [own, off.rng, counting, numbered]
  exact ⟨trivial, off.targets, rfl, off.counters.set_own _ _⟩

/-- Where attacks are built, the trees of the swapped gates are walked alike. The gate that counts has
then counted one more call if the side filter lets it be asked. -/
theorem visit_own (T : F.Twins w G) (attack : m.phase = .attackModify) {k : Nat}
    (number : w.side.NumbersOn k m) (off : WalkState.Off w.node (w.counted k) s t) :
    WalkState.Off w.node (w.counted (k + w.side.turns m)) (F.visit m w.node s)
      (G.visit m w.node t) := by
  obtain ⟨children, hereF, hereG⟩ := T.here
  obtain ⟨node, hF, side, rfl, behavior⟩ := exists_node_of_logicAt hereF
  obtain ⟨node', hG, side', children', behavior'⟩ := exists_node_of_logicAt hereG
  cases admitted : w.side.admits m with
  | false =>
    have turns : w.side.turns m = 0 := by simp [SideFilter.turns, admitted]
    rw [visit_excluded hF (side ▸ admitted), visit_excluded hG (side' ▸ admitted), turns]
    exact off
  | true =>
    have turns : w.side.turns m = 1 := by simp [SideFilter.turns, attack, admitted]
    have below : w.node ∉ node.children.flatMap F.below := by
      rw [← childrenOf_eq hF]
      exact F.not_mem_below_children w.node
    obtain ⟨bound, next⟩ := number attack admitted
    obtain ⟨goesOn, after⟩ := perform_own behavior behavior' attack bound next off
    rw [turns]
    refine visit_alike_of_perform hF hG (side'.trans side.symm) children' (fun out => ?_) goesOn
      (fun _ _ => after) fun _ _ => T.visitAll_other below after
    rw [side, admitted] at out
    cases out

/-- Of several trees, only the one with the node of the swap makes a difference to its counter. -/
theorem visitAll_through (T : F.Twins w G) {ids : List Nat} (nodup : (ids.flatMap F.below).Nodup)
    {r : Nat} (hr : r ∈ ids) (inside : w.node ∈ F.below r) {y : UInt32}
    (through : ∀ s t, WalkState.Off w.node x s t →
      WalkState.Off w.node y (F.visit m r s) (G.visit m r t))
    (off : WalkState.Off w.node x s t) :
    WalkState.Off w.node y (F.visitAll m ids s) (G.visitAll m ids t) := by
  obtain ⟨early, late, rfl⟩ := List.append_of_mem hr
  rw [List.flatMap_append, List.flatMap_cons, List.nodup_append] at nodup
  obtain ⟨-, nodup, apart⟩ := nodup
  -- no node stands in two trees, so the node of the swap is in none of the others
  have notEarly : w.node ∉ early.flatMap F.below := fun h =>
    apart w.node h w.node (List.mem_append_left _ inside) rfl
  have notLate : w.node ∉ late.flatMap F.below := fun h =>
    (List.nodup_append.1 nodup).2.2 w.node inside w.node h rfl
  have before := T.visitAll_other (m := m) notEarly off
  have after := T.visitAll_other (m := m) notLate (through _ _ before)
  simpa only [visitAll, List.foldl_append, List.foldl_cons] using after

/-- The tree of the root above the swapped gates is walked alike. -/
theorem visit_root (T : F.Twins w G) {root : Nat} (hroot : root ∈ F.roots) {children : List Nat}
    (child : w.node ∈ children)
    (gate : F.logicAt root =
      some ⟨.both, children, some (.gate ⟨.phase .attackModify, false⟩)⟩)
    (inert : m.phase ≠ .description) {k : Nat} (number : w.side.NumbersOn k m)
    (off : WalkState.Off w.node (w.counted k) s t) :
    WalkState.Off w.node (w.counted (k + w.side.turns m)) (F.visit m root s) (G.visit m root t) := by
  obtain ⟨node, hF, side, rfl, behavior⟩ := exists_node_of_logicAt gate
  have linked : w.node ∈ F.childrenOf root := by rwa [childrenOf_eq hF]
  have ne : root ≠ w.node := Nat.ne_of_lt (lt_of_mem_childrenOf linked).1
  obtain ⟨node', hG, side', children', behavior'⟩ :=
    exists_node_of_logicAt ((T.others root ne).trans gate)
  obtain ⟨goesOn, after⟩ := perform_off (m := m) ne (behavior'.trans behavior.symm) off
  have opens : (F.perform m root node s).1 = decide (m.phase = .attackModify) := by
    rw [perform, behavior]
    simp only [Gate.judge, if_neg inert, Gate.answer]
    simp
  have admits : node.side.admits m = true := by
    rw [side, SideFilter.admits]
    split <;> rfl
  refine visit_alike_of_perform hF hG (side'.trans side.symm) children' (fun out => ?_) goesOn
    (fun _ turned => ?_) fun _ on => ?_
  · rw [admits] at out
    cases out
  · -- outside the building of attacks the root turns the walk back
    have turns : w.side.turns m = 0 := by
      rw [opens, decide_eq_false_iff_not] at turned
      simp [SideFilter.turns, turned]
    rw [turns]
    exact after
  · have attack : m.phase = .attackModify := by simpa [opens] using on
    have nodup : (node.children.flatMap F.below).Nodup := by
      have whole := (List.nodup_flatMap.1 T.planted.nodup_below_roots).1 root hroot
      rw [below_eq, childrenOf_eq hF] at whole
      exact whole.of_cons
    have self : w.node ∈ F.below w.node := by
      rw [below_eq]
      exact List.mem_cons_self
    exact T.visitAll_through nodup child self (fun _ _ h => T.visit_own attack number h) after

/-- Twins are walked alike. -/
theorem walk (T : F.Twins w G) (inert : m.phase ≠ .description) {k : Nat}
    (number : w.side.NumbersOn k m) (off : WalkState.Off w.node (w.counted k) s t) :
    WalkState.Off w.node (w.counted (k + w.side.turns m)) (F.walk m s) (G.walk m t) := by
  obtain ⟨root, hroot, children, child, gate⟩ := T.behind
  have inside : w.node ∈ F.below root := by
    obtain ⟨node, hF, -, rfl, -⟩ := exists_node_of_logicAt gate
    rw [below_eq, childrenOf_eq hF]
    refine List.mem_cons_of_mem root (List.mem_flatMap.2 ⟨w.node, child, ?_⟩)
    rw [below_eq]
    exact List.mem_cons_self
  have walked := T.visitAll_through T.planted.nodup_below_roots hroot inside
    (fun _ _ h => T.visit_root hroot child gate inert number h) off
  rw [Forest.walk, Forest.walk, T.roots]
  exact walked

end Twins

/-! ## Runs -/

/-- Twins after `k` attacks that the side filter of the swap counts. -/
structure TwinsAt (w : GateSwap) (k : Nat) (F G : Forest) : Prop where
  twins : F.Twins w G
  counters : CountsOff w.node (w.counted k) F.counters G.counters

/-- Two lists of forests that are the same but for twins at one place. -/
inductive TwinsIn (w : GateSwap) (k : Nat) : Nat → List Forest → List Forest → Prop
  | here {F G : Forest} (rest : List Forest) (twins : TwinsAt w k F G) :
      TwinsIn w k 0 (F :: rest) (G :: rest)
  | there {i : Nat} {Fs Gs : List Forest} (F : Forest) (later : TwinsIn w k i Fs Gs) :
      TwinsIn w k (i + 1) (F :: Fs) (F :: Gs)

variable {w : GateSwap} {k : Nat}

/-- Twins are run alike, and stay twins. -/
theorem TwinsAt.run (h : TwinsAt w k F G) (inert : m.phase ≠ .description)
    (number : w.side.NumbersOn k m) (targets : Targets) (rng : Stream) :
    TwinsAt w (k + w.side.turns m) (F.run m targets rng).1 (G.run m targets rng).1 ∧
      (G.run m targets rng).2 = (F.run m targets rng).2 := by
  obtain ⟨twins, counters⟩ := h
  have walked := twins.walk (s := ⟨F.counters, targets, rng⟩) (t := ⟨G.counters, targets, rng⟩)
    inert number ⟨rfl, rfl, counters⟩
  exact ⟨⟨⟨twins.planted.run m targets rng, twins.roots, walked.counters.size, twins.others,
    twins.here, twins.behind⟩, walked.counters⟩, Prod.ext walked.targets walked.rng⟩

theorem TwinsIn.runAll {i : Nat} {Fs Gs : List Forest} (h : TwinsIn w k i Fs Gs)
    (inert : m.phase ≠ .description) (number : w.side.NumbersOn k m) (targets : Targets)
    (rng : Stream) :
    TwinsIn w (k + w.side.turns m) i (Forest.runAll Fs m targets rng).1
        (Forest.runAll Gs m targets rng).1 ∧
      (Forest.runAll Gs m targets rng).2 = (Forest.runAll Fs m targets rng).2 := by
  induction h generalizing targets rng with
  | here rest twins =>
    obtain ⟨after, same⟩ := twins.run inert number targets rng
    obtain ⟨sameTargets, sameRng⟩ := Prod.ext_iff.1 same
    rw [Forest.runAll, Forest.runAll]
    dsimp only
    rw [sameTargets, sameRng]
    exact ⟨.here _ after, rfl⟩
  | there F later ih =>
    obtain ⟨after, same⟩ := ih (F.run m targets rng).2.1 (F.run m targets rng).2.2
    exact ⟨.there _ after, same⟩

/-- Everything but the node of the swap has counted the same in both. -/
theorem TwinsIn.counter {i : Nat} {Fs Gs : List Forest} (h : TwinsIn w k i Fs Gs) {j id : Nat}
    (other : ¬(j = i ∧ id = w.node)) :
    Gs[j]?.map (·.counter id) = Fs[j]?.map (·.counter id) := by
  induction h generalizing j with
  | here rest twins =>
    cases j with
    | zero =>
      have ne : id ≠ w.node := fun h => other ⟨rfl, h⟩
      exact congrArg (fun c => some (Option.getD c 0)) (twins.counters.others id ne)
    | succ j => rfl
  | there F later ih =>
    cases j with
    | zero => rfl
    | succ j => exact ih fun h => other ⟨congrArg (· + 1) h.1, h.2⟩

/-- A reset brings twins to their beginning. -/
theorem Twins.reset (T : F.Twins w G) : TwinsAt w 0 F.reset G.reset := by
  obtain ⟨children, hereF, -⟩ := T.here
  obtain ⟨node, hF, -⟩ := exists_node_of_logicAt hereF
  have bound : w.node < F.counters.size := by
    rw [T.planted.counted]
    exact (Array.getElem?_eq_some_iff.1 hF).1
  have sizes : G.reset.counters.size = F.reset.counters.size := by
    simp [Forest.reset, T.counters]
  have zeros : G.reset.counters = F.reset.counters :=
    Array.ext sizes fun i _ _ => by simp [Forest.reset]
  refine ⟨⟨T.planted.apply .reset, T.roots, sizes, T.others, T.here, T.behind⟩, sizes,
    fun id _ => by rw [zeros], ?_⟩
  rw [GateSwap.counted, Condition.counted_zero]
  simp [Forest.reset, bound]

theorem Twins.reset_in (T : F.Twins w G) (before after : List Forest) :
    TwinsIn w 0 before.length ((before ++ F :: after).map Forest.reset)
      ((before ++ G :: after).map Forest.reset) := by
  induction before with
  | nil => exact .here _ T.reset
  | cons H before ih => exact .there _ ih

end Forest

end Masquerade
