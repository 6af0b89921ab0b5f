import Masquerade.Logic.Describe
import Masquerade.Proofs.Logic.Touched
import Masquerade.Proofs.Logic.Twins

/-!
# Shared behaviors

Several nodes of a forest may name one behavior. What can be seen of a forest does not tell whether they
do: a forest in which every node has a behavior of its own reads the same and is run alike
(`Forest.sharing_unseen`). Nothing is kept with behaviors, everything that is counted is kept with nodes.
A gate therefore counts, at each node that names it, the calls made there and no others
(`Forest.afterRuns_counts`).
-/

namespace Masquerade

open RandomWords (Stream)

/-- What a gate has counted after a call does not depend on the random words. -/
theorem Gate.judge_counter_rng (g : Gate) (counter : UInt32) (m : Moment) (rng rng' : Stream) :
    (g.judge counter m rng).counter = (g.judge counter m rng').counter := by
  cases counting : g.counts with
  | false => rw [judge_counter counting, judge_counter counting]
  | true =>
    rw [judge, judge]
    unfold counts at counting
    split at counting
    · next n hn =>
      rw [hn]
      dsimp only
      split_ifs <;> rfl
    · next limit hn =>
      rw [hn]
      dsimp only
      split_ifs <;> rfl
    · cases counting

namespace Forest

/-! ## What is seen of a node -/

/-- A node without the position of its behavior. -/
structure NodeView where
  title : Option String
  side : SideFilter
  children : List Nat
  /-- Whether the node names a behavior, be it in the table or not. -/
  named : Bool
  behavior : Option Behavior

/-- What is seen of the node at `id`. -/
def viewAt (F : Forest) (id : Nat) : Option NodeView :=
  F.nodes[id]?.map fun node =>
    ⟨node.title, node.side, node.children, node.behavior.isSome, F.behaviorOf node⟩

/-- Two forests that differ in the positions of behaviors at most. -/
structure SameView (F G : Forest) : Prop where
  label : G.label = F.label
  roots : G.roots = F.roots
  counters : G.counters = F.counters
  views (id : Nat) : G.viewAt id = F.viewAt id

/-- The same forest with a behavior of its own for every node that has one. -/
structure Unshares (F G : Forest) : Prop extends SameView F G where
  own (i j : Nat) (node node' : Node) (hi : G.nodes[i]? = some node) (hj : G.nodes[j]? = some node')
    (resolves : (G.behaviorOf node).isSome = true) (same : node.behavior = node'.behavior) : i = j

variable {F G : Forest} {m : Moment}

theorem viewAt_missing {id : Nat} (h : F.nodes[id]? = none) : F.viewAt id = none := by
  rw [viewAt, h]
  rfl

/-- A node and what the other forest has in its place. -/
theorem SameView.exists_node (h : F.SameView G) {id : Nat} {node : Node}
    (hF : F.nodes[id]? = some node) :
    ∃ node', G.nodes[id]? = some node' ∧ node'.title = node.title ∧ node'.side = node.side ∧
      node'.children = node.children ∧ node'.behavior.isSome = node.behavior.isSome ∧
      G.behaviorOf node' = F.behaviorOf node := by
  have seen : G.viewAt id = some ⟨node.title, node.side, node.children, node.behavior.isSome,
      F.behaviorOf node⟩ := by
    rw [h.views id, viewAt, hF]
    rfl
  obtain ⟨node', hG, view⟩ := Option.map_eq_some_iff.1 seen
  exact ⟨node', hG, by simpa using view⟩

theorem SameView.missing (h : F.SameView G) {id : Nat} (hF : F.nodes[id]? = none) :
    G.nodes[id]? = none := by
  have none := (h.views id).trans (viewAt_missing hF)
  simpa [viewAt] using none

/-! ## Texts -/

theorem nodeLine?_congr {node node' : Node} (title : node'.title = node.title)
    (side : node'.side = node.side) (named : node'.behavior.isSome = node.behavior.isSome)
    (behavior : G.behaviorOf node' = F.behaviorOf node) : G.nodeLine? node' = F.nodeLine? node := by
  rw [nodeLine?, nodeLine?, title, side]
  unfold behaviorOf at behavior
  cases hF : node.behavior with
  | none =>
    have hG : node'.behavior = none := by simpa [hF] using named
    rw [hG]
  | some handle =>
    obtain ⟨handle', hG⟩ : ∃ handle', node'.behavior = some handle' :=
      Option.isSome_iff_exists.1 (by rw [named, hF]; rfl)
    rw [hG]
    rw [hF, hG] at behavior
    dsimp only [Option.bind_some] at behavior ⊢
    rw [behavior]

theorem SameView.describeNode (h : F.SameView G) (id depth : Nat) :
    G.describeNode id depth = F.describeNode id depth := by
  induction id using F.childrenInduction generalizing depth with
  | step id ih =>
    rw [describeNode_eq, describeNode_eq]
    cases hF : F.nodes[id]? with
    | none => rw [h.missing hF]
    | some node =>
      rw [childrenOf_eq hF] at ih
      obtain ⟨node', hG, title, side, children, named, behavior⟩ := h.exists_node hF
      have below (depth : Nat) : node'.children.flatMap (G.describeNode · depth) =
          node.children.flatMap (F.describeNode · depth) := by
        rw [children]
        exact List.flatMap_congr fun c hc => ih c hc depth
      rw [hG]
      dsimp only
      rw [nodeLine?_congr title side named behavior, below, below]

theorem SameView.describe (h : F.SameView G) : G.describe = F.describe := by
  rw [Forest.describe, Forest.describe, h.roots]
  exact congrArg String.join (List.flatMap_congr fun root _ => h.describeNode root 0)

/-! ## Runs -/

/-- The same behavior is performed alike, whatever its position. -/
theorem perform_congr {node node' : Node} (behavior : G.behaviorOf node' = F.behaviorOf node)
    (id : Nat) (s : WalkState) : G.perform m id node' s = F.perform m id node s := by
  rw [perform, perform, behavior]

theorem SameView.visit (h : F.SameView G) (m : Moment) (id : Nat) (s : WalkState) :
    G.visit m id s = F.visit m id s := by
  induction id using F.childrenInduction generalizing s with
  | step id ih =>
    cases hF : F.nodes[id]? with
    | none => rw [visit_missing hF, visit_missing (h.missing hF)]
    | some node =>
      rw [childrenOf_eq hF] at ih
      obtain ⟨node', hG, -, side, children, -, behavior⟩ := h.exists_node hF
      have same : G.perform m id node' s = F.perform m id node s := perform_congr behavior id s
      refine (visit_alike_of_perform (R := Eq) hF hG side children (fun _ => rfl)
        (by rw [same]) (fun _ _ => by rw [same]) fun _ _ => ?_).symm
      rw [same]
      refine visitAll_alike_of_visit node.children (fun c hc s t hst => ?_) rfl
      rw [hst]
      exact (ih c hc t).symm

theorem SameView.walk (h : F.SameView G) (m : Moment) (s : WalkState) :
    G.walk m s = F.walk m s := by
  rw [Forest.walk, Forest.walk, h.roots]
  exact List.foldl_ext _ _ s fun s id _ => h.visit m id s

/-- A run does the same in both forests, and leaves them different in the positions of behaviors at
most. -/
theorem SameView.run (h : F.SameView G) (m : Moment) (targets : Targets) (rng : Stream) :
    (G.run m targets rng).2 = (F.run m targets rng).2 ∧
      (F.run m targets rng).1.SameView (G.run m targets rng).1 := by
  have same : G.walk m ⟨G.counters, targets, rng⟩ = F.walk m ⟨F.counters, targets, rng⟩ := by
    rw [h.counters]
    exact h.walk m _
  refine ⟨?_, h.label, h.roots, congrArg WalkState.counters same, h.views⟩
  rw [Forest.run, Forest.run, same]

/-- A run that is asked for. -/
structure RunCall where
  moment : Moment
  targets : Targets
  rng : Stream

/-- What is left of a run: the targets, the random words, and what the nodes have counted so far. -/
structure RunAnswer where
  targets : Targets
  rng : Stream
  counters : Array UInt32

/-- The answers of runs one after the other. The counters go on from run to run, and targets and random
words of each run are those it is asked for with. -/
def runs (F : Forest) : List RunCall → List RunAnswer
  | [] => []
  | ⟨m, targets, rng⟩ :: rest =>
    let (F, targets, rng) := F.run m targets rng
    ⟨targets, rng, F.counters⟩ :: F.runs rest

theorem SameView.runs (h : F.SameView G) (calls : List RunCall) : G.runs calls = F.runs calls := by
  induction calls generalizing F G with
  | nil => rfl
  | cons call rest ih =>
    obtain ⟨m, targets, rng⟩ := call
    obtain ⟨same, after⟩ := h.run m targets rng
    obtain ⟨sameTargets, sameRng⟩ := Prod.ext_iff.1 same
    rw [Forest.runs, Forest.runs]
    dsimp only
    rw [sameTargets, sameRng, after.counters, ih after]

/-! ## Copies -/

/-- How many of the nodes before `id` have a behavior. -/
def copiesBefore (F : Forest) (id : Nat) : Nat :=
  ((F.nodes.toList.take id).filterMap F.behaviorOf).length

/-- The node at `id` with its own copy of its behavior. A position that is not in the table is moved out
of the table of copies. -/
def unsharedNode (F : Forest) (id : Nat) (node : Node) : Node :=
  let copy :=
    if (F.behaviorOf node).isSome then some (F.copiesBefore id) else node.behavior.map (F.size + ·)
  { node with behavior := copy }

/-- The forest with a copy of its behavior for every node that has one, in the order of the nodes. -/
def unshared (F : Forest) : Forest where
  label := F.label
  behaviors := (F.nodes.toList.filterMap F.behaviorOf).toArray
  nodes := F.nodes.mapIdx F.unsharedNode
  roots := F.roots
  counters := F.counters
  forward id node h := by
    rw [Array.getElem?_mapIdx] at h
    obtain ⟨old, hold, rfl⟩ := Option.map_eq_some_iff.1 h
    exact F.forward id old hold

/-- An entry that is kept stands after those that are kept before it. -/
theorem getElem?_filterMap_take {α β : Type} {f : α → Option β} {xs : List α} {i : Nat} {x : α}
    {y : β} (hx : xs[i]? = some x) (hy : f x = some y) :
    (xs.filterMap f)[((xs.take i).filterMap f).length]? = some y := by
  obtain ⟨hi, rfl⟩ := List.getElem?_eq_some_iff.1 hx
  have split : xs.filterMap f =
      (xs.take i).filterMap f ++ y :: (xs.drop (i + 1)).filterMap f := by
    rw [← List.filterMap_cons_some hy, ← List.filterMap_append, List.getElem_cons_drop,
      List.take_append_drop]
  rw [split, List.getElem?_append_right (Nat.le_refl _), Nat.sub_self]
  rfl

variable {id : Nat} {node : Node}

theorem getElem?_unshared (hn : F.nodes[id]? = some node) :
    F.unshared.nodes[id]? = some (F.unsharedNode id node) := by
  rw [unshared, Array.getElem?_mapIdx, hn]
  rfl

/-- Every node has the behavior that it had before. -/
theorem behaviorOf_unshared (hn : F.nodes[id]? = some node) :
    F.unshared.behaviorOf (F.unsharedNode id node) = F.behaviorOf node := by
  rw [behaviorOf, unshared, unsharedNode]
  cases hb : F.behaviorOf node with
  | some behavior =>
    have hn : F.nodes.toList[id]? = some node := by simpa using hn
    simpa [copiesBefore] using getElem?_filterMap_take hn hb
  | none =>
    cases node.behavior with
    | none => rfl
    | some handle =>
      have few : (F.nodes.toList.filterMap F.behaviorOf).length ≤ F.size := by
        simpa [size] using List.length_filterMap_le F.behaviorOf F.nodes.toList
      simp
      omega

theorem copiesBefore_lt {i j : Nat} (hij : i < j) (hn : F.nodes[i]? = some node)
    (resolves : (F.behaviorOf node).isSome = true) : F.copiesBefore i < F.copiesBefore j := by
  obtain ⟨behavior, hb⟩ := Option.isSome_iff_exists.1 resolves
  have here : (F.nodes.toList.take j)[i]? = some node := by
    rw [List.getElem?_take_of_lt hij]
    simpa using hn
  have copy := getElem?_filterMap_take here hb
  rw [List.take_take, Nat.min_eq_left (Nat.le_of_lt hij)] at copy
  exact (List.getElem?_eq_some_iff.1 copy).1

theorem unsharedNode_behavior (resolves : (F.behaviorOf node).isSome = true) :
    (F.unsharedNode id node).behavior = some (F.copiesBefore id) := by
  rw [unsharedNode, if_pos resolves]

theorem unshares_unshared (F : Forest) : F.Unshares F.unshared where
  label := rfl
  roots := rfl
  counters := rfl
  views id := by
    rw [viewAt, viewAt]
    cases hn : F.nodes[id]? with
    | none => simp [unshared, hn]
    | some node =>
      have named : (F.unsharedNode id node).behavior.isSome = node.behavior.isSome := by
        rw [unsharedNode]
        cases hb : node.behavior <;> simp [behaviorOf, hb]
        split <;> rfl
      rw [getElem?_unshared hn, Option.map_some, Option.map_some, named, behaviorOf_unshared hn]
      rfl
  own i j node node' hi hj resolves same := by
    obtain ⟨old, hold, rfl⟩ : ∃ old, F.nodes[i]? = some old ∧ F.unsharedNode i old = node := by
      simpa [unshared] using hi
    obtain ⟨old', hold', rfl⟩ : ∃ old, F.nodes[j]? = some old ∧ F.unsharedNode j old = node' := by
      simpa [unshared] using hj
    -- nodes that name the same position both have a behavior, and each of them its own
    have again : (F.unshared.behaviorOf (F.unsharedNode j old')).isSome = true := by
      rw [behaviorOf, ← same]
      exact resolves
    rw [behaviorOf_unshared hold] at resolves
    rw [behaviorOf_unshared hold'] at again
    rw [unsharedNode_behavior resolves, unsharedNode_behavior again, Option.some.injEq] at same
    rcases Nat.lt_trichotomy i j with before | equal | after
    · exact absurd same (Nat.ne_of_lt (copiesBefore_lt before hold resolves))
    · exact equal
    · exact absurd same.symm (Nat.ne_of_lt (copiesBefore_lt after hold' again))

/-! ## Counting -/

/-- Whether the node at `id` takes part in a moment. -/
def takesPart (F : Forest) (m : Moment) (id : Nat) : Bool :=
  F.nodes[id]?.any (·.side.admits m)

/-- The moments at which a run asks the gate at `id`: its own moment, as often as it stops there and the
node takes part. -/
def asks (F : Forest) (id : Nat) (m : Moment) (targets : Targets) (rng : Stream) : List Moment :=
  ((F.runStops m targets rng).filter fun x => x.id = id && F.takesPart m id).map fun _ => m

/-- The moments at which runs one after the other ask the gate at `id`. -/
def asked (F : Forest) (id : Nat) : List RunCall → List Moment
  | [] => []
  | ⟨m, targets, rng⟩ :: rest =>
    F.asks id m targets rng ++ (F.run m targets rng).1.asked id rest

/-- The forest after runs one after the other. -/
def afterRuns (F : Forest) : List RunCall → Forest
  | [] => F
  | ⟨m, targets, rng⟩ :: rest => (F.run m targets rng).1.afterRuns rest

/-- A step of a walk counts at a node only if it asks the gate there. -/
theorem stepsAs_counts {gate : Gate} (hn : F.nodes[id]? = some node)
    (hb : F.behaviorOf node = some (.gate gate)) (m : Moment) (rng : Stream) :
    F.StepsAs m (·.counters[id]?) fun j counter =>
      if j = id && F.takesPart m id then counter.map fun c => (gate.judge c m rng).counter
      else counter where
  admitted j other hj hside s := by
    by_cases own : j = id
    · subst own
      obtain rfl : node = other := Option.some.inj (hn.symm.trans hj)
      have part : F.takesPart m j = true := by simp [takesPart, hn, hside]
      rw [perform, hb, part]
      simp only [Array.getElem?_setIfInBounds_self, decide_true, Bool.and_self, if_true]
      split
      · next bound =>
        rw [Array.getElem?_eq_getElem bound]
        exact congrArg some (gate.judge_counter_rng _ m _ rng)
      · next out => rw [Array.getElem?_eq_none (Nat.le_of_not_lt out)]; rfl
    · rw [F.perform_counters_of_ne m (Ne.symm own)]
      simp [own]
  excluded j other hj hside counter := by
    by_cases own : j = id
    · subst own
      simp [takesPart, hj, hside]
    · simp [own]

/-- A run counts at a node the calls made there, and no others. -/
theorem run_counts {gate : Gate} {c : UInt32} (hn : F.nodes[id]? = some node)
    (hb : F.behaviorOf node = some (.gate gate)) (hc : F.counters[id]? = some c) (m : Moment)
    (targets : Targets) (words rng : Stream) :
    (F.run m targets words).1.counters[id]? = some ((F.asks id m targets words).foldl
      (fun c m => (gate.judge c m rng).counter) c) := by
  have walked := (stepsAs_counts hn hb m rng).run targets words
  rw [asks, List.foldl_map, List.foldl_filter]
  refine walked.trans ?_
  rw [hc]
  refine List.foldl_hom some fun c x => ?_
  split <;> rfl

/-- Runs one after the other count at a node the calls made there, and no others. -/
theorem afterRuns_counts {gate : Gate} {c : UInt32} (hn : F.nodes[id]? = some node)
    (hb : F.behaviorOf node = some (.gate gate)) (hc : F.counters[id]? = some c) (rng : Stream)
    (calls : List RunCall) :
    (F.afterRuns calls).counters[id]? =
      some ((F.asked id calls).foldl (fun c m => (gate.judge c m rng).counter) c) := by
  induction calls generalizing F c with
  | nil => exact hc
  | cons call rest ih =>
    obtain ⟨m, targets, words⟩ := call
    have first := run_counts hn hb hc m targets words rng
    have later := ih (F := (F.run m targets words).1) hn hb first
    rw [afterRuns, later, asked, List.foldl_append]

/-- Whether nodes share their behaviors is not seen. Every forest has its like in which each node with a
behavior has a copy of its own, and a position that was not in the table still is not. Such a forest
reads the same, and runs one after the other have the same answers in both. In either, a gate has
counted at each node what it would have counted alone, from the moments at which it was asked there. -/
theorem sharing_unseen (F : Forest) :
    F.Unshares F.unshared ∧
    (∀ G, F.Unshares G → G.describe = F.describe ∧ ∀ calls, G.runs calls = F.runs calls) ∧
    ∀ (id : Nat) (node : Node) (gate : Gate) (c : UInt32) (rng : Stream) (calls : List RunCall),
      F.nodes[id]? = some node → F.behaviorOf node = some (.gate gate) → F.counters[id]? = some c →
      (F.afterRuns calls).counters[id]? =
        some ((F.asked id calls).foldl (fun c m => (gate.judge c m rng).counter) c) :=
  ⟨F.unshares_unshared, fun _ h => ⟨h.describe, h.runs⟩,
    fun _ _ _ _ rng calls hn hb hc => afterRuns_counts hn hb hc rng calls⟩

/-- Two nodes with one gate between them, which is asked in every attack at the one and in the player's
attacks at the other, and a node whose behavior is missing. -/
def sharedBeat : Forest :=
  let F := ((empty "beat").addBehavior (.gate { condition := .waitEvery 2 })).2
  let F := (F.addNode none (some 0)).2
  let F := (F.addNode none (some 0)).2
  let F := (F.addNode none (some 7)).2
  (F.setSide 1 .player).2

/-- After an attack of each side the shared gate has been asked twice at the one node and once at the
other. -/
theorem beats_counted_apart :
    let gate : Gate := { condition := .waitEvery 2 }
    let calls : List RunCall := [⟨.ofAttack .attackModify .enemy 1 1, {}, .ofSeed 0⟩,
      ⟨.ofAttack .attackModify .player 2 1, {}, .ofSeed 0⟩]
    sharedBeat.nodes[0]?.bind sharedBeat.behaviorOf = some (.gate gate) ∧
      sharedBeat.nodes[1]?.bind sharedBeat.behaviorOf = some (.gate gate) ∧
      sharedBeat.unshared.nodes.toList.map (·.behavior) = [some 0, some 1, some 10] ∧
      sharedBeat.unshared.behaviors.size = 2 ∧
      sharedBeat.unshared.describe = sharedBeat.describe ∧
      sharedBeat.unshared.runs calls = sharedBeat.runs calls ∧
      (sharedBeat.afterRuns calls).counters[0]? = some 0 ∧
      (sharedBeat.afterRuns calls).counters[1]? = some 1 := by
  intro gate calls
  obtain ⟨unshares, alike, counts⟩ := sharing_unseen sharedBeat
  obtain ⟨texts, runs⟩ := alike sharedBeat.unshared unshares
  have always := counts 0 { behavior := some 0 } gate 0 (.ofSeed 0) calls
    (by decide) (by decide) (by decide)
  have player := counts 1 { behavior := some 0, side := .player } gate 0 (.ofSeed 0) calls
    (by decide) (by decide) (by decide)
  have twice : sharedBeat.asked 0 calls = calls.map (·.moment) := by decide +kernel
  have once : sharedBeat.asked 1 calls = [.ofAttack .attackModify .player 2 1] := by decide +kernel
  rw [twice] at always
  rw [once] at player
  exact ⟨by decide, by decide, by decide, by decide, texts, runs calls, always, player⟩

end Forest

end Masquerade
