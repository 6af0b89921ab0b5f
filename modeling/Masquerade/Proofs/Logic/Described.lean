import Mathlib.Logic.Relation
import Masquerade.Logic.Describe
import Masquerade.Proofs.Logic.Unshared

/-!
# Lines of a forest and stops of a walk

The text of a forest and a run of it meet the same nodes in the same order. A run in the description phase
goes on everywhere, and so it stops at every node once (`Planted.runStops_description`). The text has the
lines of the nodes in the order of these stops, each indented by the number of nodes with a line strictly
above it (`Planted.describe_eq`). Runs only count, and the text shows no counts
(`describe_afterRuns`).
-/

namespace Masquerade

open RandomWords (Stream)

namespace Forest

/-! ## Nodes above a node -/

/-- `child` hangs directly below `parent`. -/
def HangsBelow (F : Forest) (parent child : Nat) : Prop := child ∈ F.childrenOf parent

/-- The nodes strictly above the node at `id`. -/
def above (F : Forest) (id : Nat) : List Nat :=
  (List.range F.size).filter fun a => a ≠ id && (F.below a).contains id

variable {F : Forest} {m : Moment}

theorem mem_below_iff {a id : Nat} :
    id ∈ F.below a ↔ Relation.ReflTransGen F.HangsBelow a id := by
  induction a using F.childrenInduction with
  | step a ih =>
    rw [below_eq, List.mem_cons, List.mem_flatMap, Relation.ReflTransGen.cases_head_iff, eq_comm]
    refine or_congr_right (exists_congr fun c => ?_)
    exact and_congr_right fun hc => ih c hc

theorem lt_of_transGen {a id : Nat} (h : Relation.TransGen F.HangsBelow a id) : a < id := by
  induction h with
  | single edge => exact (lt_of_mem_childrenOf edge).1
  | tail _ edge ih => exact Nat.lt_trans ih (lt_of_mem_childrenOf edge).1

/-- A node is above another if a chain of links leads down from it. -/
theorem mem_above_iff {a id : Nat} : a ∈ F.above id ↔ Relation.TransGen F.HangsBelow a id := by
  simp only [above, List.mem_filter, List.mem_range, Bool.and_eq_true, decide_eq_true_eq,
    List.contains_iff_mem, mem_below_iff, Relation.reflTransGen_iff_eq_or_transGen]
  constructor
  · rintro ⟨-, hne, rfl | h⟩
    · exact absurd rfl hne
    · exact h
  · intro h
    obtain ⟨child, edge, -⟩ := Relation.TransGen.head'_iff.1 h
    exact ⟨(lt_of_mem_childrenOf edge).2, Nat.ne_of_lt (lt_of_transGen h), .inr h⟩

theorem nodup_above (F : Forest) (id : Nat) : (F.above id).Nodup :=
  List.nodup_range.filter _

theorem Planted.above_root (h : F.Planted) {root : Nat} (hr : root ∈ F.roots) :
    F.above root = [] := by
  refine List.eq_nil_iff_forall_not_mem.2 fun a ha => ?_
  obtain ⟨parent, -, edge⟩ := Relation.TransGen.tail'_iff.1 (mem_above_iff.1 ha)
  exact h.root_not_child hr edge

/-- Above a child is its parent, and what is above the parent. -/
theorem Planted.above_child (h : F.Planted) {p c : Nat} (hc : c ∈ F.childrenOf p) :
    (F.above c).Perm (p :: F.above p) := by
  have fresh : p ∉ F.above p := fun hp => absurd (lt_of_transGen (mem_above_iff.1 hp)) p.lt_irrefl
  rw [List.perm_ext_iff_of_nodup (F.nodup_above c) (List.nodup_cons.2 ⟨fresh, F.nodup_above p⟩)]
  intro a
  rw [List.mem_cons, mem_above_iff, mem_above_iff, Relation.TransGen.tail'_iff, eq_comm,
    ← Relation.reflTransGen_iff_eq_or_transGen]
  constructor
  · rintro ⟨q, path, edge⟩
    exact h.parent_unique edge hc ▸ path
  · exact fun path => ⟨p, path, hc⟩

/-! ## Lines -/

/-- The node at `id` has a line: it names a behavior, be it in the table or not, or it has a title. -/
def hasLineAt (F : Forest) (id : Nat) : Bool :=
  F.nodes[id]?.any fun node => node.behavior.isSome || node.title.isSome

/-- How far the line of the node at `id` is indented: the number of nodes with a line above it. -/
def depthAt (F : Forest) (id : Nat) : Nat := (F.above id).countP F.hasLineAt

/-- The line of the node at `id` in its place. -/
def lineAt? (F : Forest) (id : Nat) : Option String :=
  (F.nodes[id]?.bind F.nodeLine?).map (indent (F.depthAt id) ++ ·)

theorem nodeLine?_isSome (F : Forest) (node : Node) :
    (F.nodeLine? node).isSome = (node.behavior.isSome || node.title.isSome) := by
  unfold nodeLine?
  split
  · next handle hb =>
    rw [hb]
    split <;> rfl
  · next hb =>
    rw [hb]
    exact Option.isSome_map

theorem lineAt?_isSome (F : Forest) (id : Nat) : (F.lineAt? id).isSome = F.hasLineAt id := by
  rw [lineAt?, Option.isSome_map, hasLineAt]
  cases F.nodes[id]? with
  | none => rfl
  | some node => exact F.nodeLine?_isSome node

/-- A line is ended, and nothing else of it is left open. -/
theorem exists_words_of_nodeLine? {node : Node} {line : String} (h : F.nodeLine? node = some line) :
    ∃ words, line = words ++ "\n" := by
  have colon (text : String) : text ++ ":\n" = text ++ ":" ++ "\n" := by
    rw [String.append_assoc]
    rfl
  unfold nodeLine? at h
  split at h
  · split at h <;> obtain rfl := Option.some.inj h
    · exact ⟨_, colon _⟩
    · exact ⟨_, rfl⟩
    · exact ⟨"- (unbound behavior)", rfl⟩
  · obtain ⟨title, -, rfl⟩ := Option.map_eq_some_iff.1 h
    exact ⟨_, colon _⟩

/-- The line of a node is its own, with the indentation before it. -/
theorem exists_of_lineAt? {id : Nat} {line : String} (h : F.lineAt? id = some line) :
    ∃ node words, F.nodes[id]? = some node ∧ F.nodeLine? node = some (words ++ "\n") ∧
      line = indent (F.depthAt id) ++ words ++ "\n" := by
  obtain ⟨own, hown, rfl⟩ := Option.map_eq_some_iff.1 h
  obtain ⟨node, hnode, hline⟩ := Option.bind_eq_some_iff.1 hown
  obtain ⟨words, rfl⟩ := exists_words_of_nodeLine? hline
  exact ⟨node, words, hnode, hline, (String.append_assoc ..).symm⟩

/-! ## The text as the lines of its nodes -/

theorem Planted.depthAt_root (h : F.Planted) {root : Nat} (hr : root ∈ F.roots) :
    F.depthAt root = 0 := by
  rw [depthAt, h.above_root hr, List.countP_nil]

/-- A child is indented further than its parent if the parent has a line. -/
theorem Planted.depthAt_child (h : F.Planted) {p c : Nat} (hc : c ∈ F.childrenOf p) :
    F.depthAt c = F.depthAt p + if F.hasLineAt p then 1 else 0 := by
  rw [depthAt, (h.above_child hc).countP_eq, List.countP_cons, depthAt]

/-- The lines of a tree are those of its nodes in preorder. -/
theorem Planted.describeNode_depthAt (h : F.Planted) (id : Nat) :
    F.describeNode id (F.depthAt id) = (F.below id).filterMap F.lineAt? := by
  induction id using F.childrenInduction with
  | step id ih =>
    have lines (depth : Nat) (hd : ∀ c ∈ F.childrenOf id, F.depthAt c = depth) :
        ((F.childrenOf id).flatMap fun c => F.describeNode c depth) =
          ((F.childrenOf id).flatMap F.below).filterMap F.lineAt? := by
      rw [List.filterMap_flatMap]
      exact List.flatMap_congr fun c hc => hd c hc ▸ ih c hc
    have deeper (c : Nat) (hc : c ∈ F.childrenOf id) := h.depthAt_child hc
    rw [describeNode_eq, below_eq, List.filterMap_cons, lineAt?]
    rw [← lineAt?_isSome, lineAt?, Option.isSome_map] at deeper
    cases hn : F.nodes[id]? with
    | none =>
      have leaf : F.childrenOf id = [] := by rw [childrenOf, hn]
      rw [leaf]
      rfl
    | some node =>
      rw [hn, Option.bind_some] at deeper
      rw [Option.bind_some]
      dsimp only
      rw [← childrenOf_eq hn]
      cases hline : F.nodeLine? node with
      | none =>
        -- the node only groups: its children stand where it would stand
        refine lines (F.depthAt id) fun c hc => ?_
        rw [deeper c hc, hline]
        rfl
      | some line =>
        refine congrArg (_ :: ·) (lines (F.depthAt id + 1) fun c hc => ?_)
        rw [deeper c hc, hline]
        rfl

theorem Planted.describe_eq (h : F.Planted) :
    F.describe = String.join ((F.roots.flatMap F.below).filterMap F.lineAt?) := by
  rw [describe, List.filterMap_flatMap]
  refine congrArg String.join (List.flatMap_congr fun root hr => ?_)
  rw [← h.describeNode_depthAt, h.depthAt_root hr]

/-! ## Walks in the description phase -/

/-- In the description phase every node takes part. -/
theorem admits_of_description (hm : m.phase = .description) (side : SideFilter) :
    side.admits m = true := by
  simp [SideFilter.admits, hm, Phase.isAttackPhase]

/-- In the description phase a walk goes on at every node. -/
theorem perform_goesOn_of_description (hm : m.phase = .description) (id : Nat) (node : Node)
    (s : WalkState) : (F.perform m id node s).1 = true := by
  unfold perform
  split
  · rw [Gate.judge, if_pos hm]
    rfl
  · rfl
  · rfl

/-- Walks that go on everywhere stop at all nodes, tree by tree. -/
theorem stopsAll_of_stops {ids : List Nat}
    (h : ∀ c ∈ ids, ∀ s, F.stops m c s = (F.below c).map (⟨·, true⟩)) (s : WalkState) :
    F.stopsAll m ids s = (ids.flatMap F.below).map (⟨·, true⟩) := by
  induction ids generalizing s with
  | nil => rfl
  | cons c rest ih =>
    rw [stopsAll_cons, h c List.mem_cons_self, ih fun d hd => h d (List.mem_cons_of_mem c hd),
      List.flatMap_cons, List.map_append]

theorem stops_of_description (hm : m.phase = .description) {id : Nat}
    (exist : ∀ j ∈ F.below id, j < F.size) (s : WalkState) :
    F.stops m id s = (F.below id).map (⟨·, true⟩) := by
  induction id using F.childrenInduction generalizing s with
  | step id ih =>
    rw [below_eq] at exist ⊢
    have hn := Array.getElem?_eq_getElem (exist id List.mem_cons_self)
    rw [stops_admitted hn (admits_of_description hm _),
      if_pos (perform_goesOn_of_description hm id _ s), List.map_cons]
    refine congrArg (_ :: ·) (stopsAll_of_stops (fun c hc s => ih c hc (fun j hj => ?_) s) _)
    exact exist j (List.mem_cons_of_mem id (List.mem_flatMap.2 ⟨c, hc, hj⟩))

/-- A run in the description phase goes on at every node. -/
theorem Planted.runStops_description (h : F.Planted) (hm : m.phase = .description)
    (targets : Targets) (rng : Stream) :
    F.runStops m targets rng = (F.roots.flatMap F.below).map (⟨·, true⟩) :=
  stopsAll_of_stops (fun root hr s => stops_of_description hm
    (fun _ hj => h.lt_size_of_mem_below (List.mem_flatMap.2 ⟨root, hr, hj⟩)) s) _

/-! ## The text after runs -/

theorem describeNode_withCounters (F : Forest) (counters : Array UInt32) (id depth : Nat) :
    ({ F with counters } : Forest).describeNode id depth = F.describeNode id depth := by
  induction id using F.childrenInduction generalizing depth with
  | step id ih =>
    rw [describeNode_eq, describeNode_eq]
    cases hn : F.nodes[id]? with
    | none => rfl
    | some node =>
      rw [childrenOf_eq hn] at ih
      have below (depth : Nat) := List.flatMap_congr fun c hc => ih c hc depth
      dsimp only
      rw [below, below]
      rfl

theorem describe_run (F : Forest) (m : Moment) (targets : Targets) (rng : Stream) :
    (F.run m targets rng).1.describe = F.describe :=
  congrArg String.join (List.flatMap_congr fun root _ => F.describeNode_withCounters _ root 0)

/-- Runs leave the text as it is. -/
theorem describe_afterRuns (F : Forest) (calls : List RunCall) :
    (F.afterRuns calls).describe = F.describe := by
  induction calls generalizing F with
  | nil => rfl
  | cons call rest ih => exact (ih _).trans (F.describe_run call.moment call.targets call.rng)

/-- The text of a built forest follows the run of it in the description phase. The run goes on everywhere
and stops at every node once. The text has the line of each of these nodes in the same order, if the node
names a behavior or has a title. A line is indented for each node with a line from which links lead down to
its node. Runs in any phase leave the text as it is. -/
theorem text_follows_run (label : String) (ops : List Op) (hm : m.phase = .description)
    (targets : Targets) (rng : Stream) :
    let F := build label ops
    let stops := F.runStops m targets rng
    (stops.map (·.id)).Perm (List.range F.size) ∧
    (∀ stop ∈ stops, stop.goesOn = true) ∧
    F.describe = String.join ((stops.map (·.id)).filterMap F.lineAt?) ∧
    (∀ id, (F.lineAt? id).isSome ↔
      ∃ node, F.nodes[id]? = some node ∧ (node.behavior.isSome ∨ node.title.isSome)) ∧
    (∀ id line, F.lineAt? id = some line →
      ∃ node words, F.nodes[id]? = some node ∧ F.nodeLine? node = some (words ++ "\n") ∧
        line = indent ((F.above id).countP fun a => (F.lineAt? a).isSome) ++ words ++ "\n") ∧
    (∀ id, (F.above id).Nodup ∧
      ∀ a, a ∈ F.above id ↔ Relation.TransGen F.HangsBelow a id) ∧
    ∀ calls, (F.afterRuns calls).describe = F.describe := by
  intro F stops
  have h : F.Planted := planted_build label ops
  have hstops : stops = (F.roots.flatMap F.below).map (⟨·, true⟩) :=
    h.runStops_description hm targets rng
  have ids : stops.map (·.id) = F.roots.flatMap F.below := by
    rw [hstops, List.map_map]
    exact List.map_id _
  refine ⟨ids ▸ h.below_roots, fun stop hstop => ?_, ids ▸ h.describe_eq, fun id => ?_,
    fun id line hline => ?_, fun id => ⟨F.nodup_above id, fun a => mem_above_iff⟩,
    F.describe_afterRuns⟩
  · rw [hstops] at hstop
    obtain ⟨id, -, rfl⟩ := List.mem_map.1 hstop
    rfl
  · rw [lineAt?_isSome, hasLineAt, Option.any_eq_true]
    simp
  · have counted : F.depthAt id = (F.above id).countP fun a => (F.lineAt? a).isSome :=
      List.countP_congr fun a _ => by rw [lineAt?_isSome]
    exact counted ▸ exists_of_lineAt? hline

/-- A counting gate with a title, below it a group with a title, and below that a group without one, which
holds a node whose behavior is missing. Beside the gate stands an untitled group with an effect. -/
def emberOps : List Op :=
  [.addGate none { condition := .waitEvery 2 }, .setTitle 0 "Opening", .addGroup (some 0) "Guard",
    .addNode (some 1) none, .addNode (some 2) (some 7), .addNode none none,
    .addEffect (some 4) (.restoreMana 1)]

/-- The six nodes are met in their order, and the two untitled groups have no line. -/
theorem ember_text_follows_run :
    let F := build "ember" emberOps
    let m : Moment := { phase := .description }
    let stops := F.runStops m {} (.ofSeed 0)
    let attack : RunCall := ⟨.ofAttack .attackModify .player 1 1, {}, .ofSeed 0⟩
    m.phase = .description ∧
      stops.map (·.id) = [0, 1, 2, 3, 4, 5] ∧
      F.describe = String.join ((stops.map (·.id)).filterMap F.lineAt?) ∧
      F.describe = "Once every 2 times:\n  Guard:\n    - (unbound behavior)\n" ++
        "- Restore 1 mana when bound\n" ∧
      F.above 3 = [0, 1, 2] ∧ F.lineAt? 2 = none ∧
      (F.afterRuns [attack]).counter 0 = 1 ∧ (F.afterRuns [attack]).describe = F.describe := by
  intro F m stops attack
  obtain ⟨-, -, text, -, -, -, kept⟩ := text_follows_run "ember" emberOps (m := m) rfl {} (.ofSeed 0)
  exact ⟨rfl, by decide +kernel, text, by decide +kernel, by decide +kernel, by decide +kernel,
    by decide +kernel, kept [attack]⟩

end Forest

end Masquerade
