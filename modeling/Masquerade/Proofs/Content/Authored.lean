import Masquerade.Proofs.Content.Drafts
import Masquerade.Proofs.Logic.Lists

/-!
# Built materials

Building a material refuses a draft that is flawed anywhere, and otherwise makes one node for each authored
node, numbered as `NodeDraft.numbered` numbers the drafts. `Forest.Entered` says what entering a row of trees
does to a forest; it composes along the row and from a node to its children (`Entered.append`,
`Entered.below`), as building recurses (`enterTrees_spec`).
-/

namespace Masquerade

open NodeDraft (all mem_all_cons mem_numbered numbered numbered_append numbered_cons starts starts_append)

namespace Forest

variable {F G H : Forest}

/-! ## Nodes without their children -/

/-- What stands at a node, apart from its children. -/
def bare (F : Forest) (id : Nat) : Option Node := F.nodes[id]?.map fun node => { node with children := [] }

theorem bare_addNode {place : Option Nat} (there : F.HasPlace place) (behavior : Option Nat) (id : Nat) :
    (F.addNode place behavior).2.bare id = if id = F.size then some { behavior } else F.bare id := by
  cases place with
  | none =>
    simp only [bare, addNode, Array.getElem?_push]
    by_cases last : id = F.nodes.size
    · rw [if_pos last, if_pos (show id = F.size from last), Option.map_some]
    · rw [if_neg last, if_neg (show ¬ id = F.size from last)]
  | some parent =>
    have hp : parent < F.nodes.size := hasPlace_some.1 there
    simp only [bare, addNode, dif_pos hp, linkChild, Array.getElem?_push, Array.size_modify,
      Array.getElem?_modify]
    by_cases last : id = F.nodes.size
    · rw [if_pos last, if_pos (show id = F.size from last), Option.map_some]
    · rw [if_neg last, if_neg (show ¬ id = F.size from last)]
      split
      · rw [Option.map_map]
        rfl
      · rfl

theorem bare_modifyNode (F : Forest) (id : Nat) {f : Node → Node}
    (hf : ∀ node, (f node).children = node.children)
    (apart : ∀ node, { f node with children := [] } = f { node with children := [] }) (i : Nat) :
    (F.modifyNode id f hf).2.bare i = if id = i then (F.bare i).map f else F.bare i := by
  unfold modifyNode
  split
  · simp only [bare, Array.getElem?_modify]
    split
    · rw [Option.map_map, Option.map_map]
      exact congrArg (F.nodes[i]?.map ·) (funext apart)
    · rfl
  · next missing =>
    split
    · next same =>
      have none : F.nodes[i]? = none := Array.getElem?_eq_none (same ▸ Nat.not_lt.1 missing)
      rw [bare, none]
      rfl
    · rfl

theorem counters_addNode {place : Option Nat} (there : F.HasPlace place) (behavior : Option Nat) :
    (F.addNode place behavior).2.counters = F.counters.push 0 := by
  cases place with
  | none => rfl
  | some parent =>
    have hp : parent < F.nodes.size := hasPlace_some.1 there
    rw [addNode, dif_pos hp]

/-- What becomes of a forest when the node at `id` is changed apart from its children. -/
structure Retouched (id : Nat) (f : Node → Node) (F G : Forest) : Prop where
  grown : F.Grown G
  size : G.size = F.size
  counters : G.counters = F.counters
  lists (p : Option Nat) : G.listAt p = F.listAt p
  bare (i : Nat) : G.bare i = if id = i then (F.bare i).map f else F.bare i

namespace Retouched

theorem refl (id : Nat) (F : Forest) : Retouched id (fun node => node) F F where
  grown := .refl F
  size := rfl
  counters := rfl
  lists _ := rfl
  bare i := by rw [Option.map_id', ite_self]

theorem modifyNode (F : Forest) (id : Nat) {f : Node → Node}
    (hf : ∀ node, (f node).children = node.children)
    (apart : ∀ node, { f node with children := [] } = f { node with children := [] }) :
    Retouched id f F (F.modifyNode id f hf).2 where
  grown := .modifyNode F id f hf
  size := F.size_modifyNode id f hf
  counters := by
    unfold Forest.modifyNode
    split <;> rfl
  lists := F.listAt_modifyNode id f hf
  bare := F.bare_modifyNode id hf apart

theorem trans {id : Nat} {f g : Node → Node} (first : Retouched id f F G) (second : Retouched id g G H) :
    Retouched id (fun node => g (f node)) F H where
  grown := first.grown.trans second.grown
  size := second.size.trans first.size
  counters := second.counters.trans first.counters
  lists p := (second.lists p).trans (first.lists p)
  bare i := by
    rw [second.bare, first.bare]
    split
    · rw [Option.map_map]
      rfl
    · rfl

end Retouched

/-! ## A forest after drafts were entered -/

/-- The position, if any, resolves to the behavior, if any. -/
def Resolves (table : Array Behavior) (handle : Option Nat) (behavior : Option Behavior) : Prop :=
  handle.isSome = behavior.isSome ∧ handle.bind (table[·]?) = behavior

theorem Resolves.mono {handle : Option Nat} {behavior : Option Behavior}
    (h : Resolves F.behaviors handle behavior) (grown : F.Grown G) :
    Resolves G.behaviors handle behavior := by
  obtain ⟨same, found⟩ := h
  refine ⟨same, ?_⟩
  cases handle with
  | none => exact found
  | some i =>
    cases behavior with
    | none => cases same
    | some b => exact grown.behaviors i b found

variable {shared : List (String × SharedDraft)} {handles : SharedHandles}

/-- Every name resolves to the behavior of the shared draft that bears it. -/
def Knows (shared : List (String × SharedDraft)) (handles : SharedHandles) (F : Forest) : Prop :=
  ∀ name, Resolves F.behaviors (handles.lookup name) ((shared.lookup name).bind SharedDraft.behavior?)

theorem Knows.mono (h : Knows shared handles F) (grown : F.Grown G) : Knows shared handles G :=
  fun name => (h name).mono grown

/-- A position that a draft's node can name: it resolves to the behavior of the draft, and it is the one of
the name that the draft refers to, if it refers to one. -/
def Names (shared : List (String × SharedDraft)) (handles : SharedHandles) (F : Forest) (x : NodeDraft)
    (handle : Option Nat) : Prop :=
  Resolves F.behaviors handle (x.behavior? shared) ∧
    ∀ name, x.shared = some name → handle = handles.lookup name

/-- The node of a draft, apart from its children. -/
def Stands (shared : List (String × SharedDraft)) (handles : SharedHandles) (F : Forest) (id : Nat)
    (x : NodeDraft) : Prop :=
  ∃ handle, F.bare id = some { title := x.title, behavior := handle, side := x.side } ∧
    Names shared handles F x handle

theorem Stands.mono {id : Nat} {x : NodeDraft} (h : Stands shared handles F id x) (grown : F.Grown G)
    (same : G.bare id = F.bare id) : Stands shared handles G id x := by
  obtain ⟨handle, node, resolves, used⟩ := h
  exact ⟨handle, same.trans node, resolves.mono grown, used⟩

theorem Stands.exists_node {id : Nat} {x : NodeDraft} (h : Stands shared handles F id x) :
    ∃ node, F.nodes[id]? = some node ∧ node.title = x.title ∧ node.side = x.side ∧
      Names shared handles F x node.behavior := by
  obtain ⟨handle, stands, names⟩ := h
  obtain ⟨node, hn, same⟩ := Option.map_eq_some_iff.1 stands
  obtain ⟨title, rfl, side, -⟩ := Node.mk.inj same
  exact ⟨node, hn, title, side, names⟩

/-- What the forest `G` has beyond `F` after a row of trees was entered at a place. -/
structure Entered (shared : List (String × SharedDraft)) (handles : SharedHandles) (place : Option Nat)
    (xs : List NodeDraft) (F G : Forest) : Prop where
  grown : F.Grown G
  size : G.size = F.size + (xs.flatMap all).length
  counters : G.counters.toList = F.counters.toList ++ List.replicate (xs.flatMap all).length 0
  lists (p : Option Nat) (h : F.HasPlace p) :
    G.listAt p = F.listAt p ++ if p = place then starts F.size xs else []
  old (id : Nat) (h : id < F.size) : G.bare id = F.bare id
  new (p : NodeDraft × Nat) (h : p ∈ numbered F.size xs) :
    Stands shared handles G p.2 p.1 ∧ G.childrenOf p.2 = starts (p.2 + 1) p.1.children

theorem HasPlace.mono {place : Option Nat} (h : F.HasPlace place) (size : F.size ≤ G.size) :
    G.HasPlace place := fun parent same => Nat.lt_of_lt_of_le (h parent same) size

namespace Entered

variable {place : Option Nat} {x : NodeDraft} {xs ys : List NodeDraft}

theorem nil (F : Forest) : Entered shared handles place [] F F where
  grown := .refl F
  size := rfl
  counters := (List.append_nil _).symm
  lists p _ := by rw [starts, ite_self, List.append_nil]
  old _ _ := rfl
  new _ h := absurd h List.not_mem_nil

theorem append (first : Entered shared handles place xs F G) (second : Entered shared handles place ys G H)
    (there : F.HasPlace place) : Entered shared handles place (xs ++ ys) F H where
  grown := first.grown.trans second.grown
  size := by
    rw [second.size, first.size, List.flatMap_append, List.length_append, Nat.add_assoc]
  counters := by
    rw [second.counters, first.counters, List.append_assoc, List.replicate_append_replicate,
      List.flatMap_append, List.length_append]
  lists p h := by
    rw [second.lists p (h.mono first.grown.size), first.lists p h, List.append_assoc, starts_append,
      ← first.size]
    split <;> rfl
  old id h := (second.old id (Nat.lt_of_lt_of_le h first.grown.size)).trans (first.old id h)
  new p h := by
    rw [numbered_append, List.mem_append, ← first.size] at h
    obtain h | h := h
    · -- a node of the first row is neither changed by the second one nor at its place
      have range := mem_numbered h
      have before : p.2 < G.size := by
        rw [first.size]
        exact range.2
      have apart : some p.2 ≠ place := fun same =>
        Nat.not_lt.2 range.1 (there p.2 same.symm)
      obtain ⟨stands, children⟩ := first.new p h
      refine ⟨stands.mono second.grown (second.old p.2 before), ?_⟩
      have lists := second.lists (some p.2) (hasPlace_some.2 before)
      rw [if_neg apart, List.append_nil] at lists
      exact lists.trans children
    · exact second.new p h

/-- A node is entered without its children, and then its children below it. -/
theorem below {title : Option String} {side : SideFilter} {gate : Option GateDraft}
    {effect : Option EffectDraft} {use : Option String} {invert : Bool} {children : List NodeDraft}
    (node : Entered shared handles place [.mk title side gate effect use invert []] F G)
    (inner : Entered shared handles (some F.size) children G H) :
    Entered shared handles place [.mk title side gate effect use invert children] F H := by
  have count : ([NodeDraft.mk title side gate effect use invert children].flatMap all).length =
      1 + (children.flatMap all).length := by
    rw [List.flatMap_singleton, NodeDraft.all_eq, List.length_cons, Nat.add_comm]
    rfl
  have size : G.size = F.size + 1 := node.size
  obtain ⟨stands, bottom⟩ := node.new (_, F.size) (List.mem_singleton_self _)
  have last : F.size < G.size := by omega
  exact {
    grown := node.grown.trans inner.grown
    size := by rw [inner.size, size, count, Nat.add_assoc]
    counters := by
      rw [inner.counters, node.counters, count, List.append_assoc, List.replicate_append_replicate]
      rfl
    lists := fun p h => by
      have apart : p ≠ some F.size := fun same => Nat.lt_irrefl _ (h F.size same)
      rw [inner.lists p (h.mono node.grown.size), if_neg apart, List.append_nil]
      exact node.lists p h
    old := fun id h => (inner.old id (by omega)).trans (node.old id h)
    new := fun p h => by
      rw [numbered_cons, List.mem_append, List.mem_cons] at h
      obtain (rfl | h) | h := h
      · refine ⟨stands.mono inner.grown (inner.old F.size last), ?_⟩
        have lists := inner.lists (some F.size) (hasPlace_some.2 last)
        rw [if_pos rfl] at lists
        rw [← size]
        exact lists.trans (congrArg (· ++ _) bottom)
      · rw [← size] at h
        exact inner.new p h
      · exact absurd h List.not_mem_nil }

end Entered

/-! ## Entering a node -/

/-- The forest with the node at `id` titled, if there is a title. -/
def entitle (F : Forest) (id : Nat) : Option String → Forest
  | some title => (F.setTitle id title).2
  | none => F

/-- The forest with a new node at a place, titled if there is a title, and open to a side. -/
def sprout (F : Forest) (place handle : Option Nat) (title : Option String) (side : SideFilter) : Forest :=
  (((F.addNode place handle).2.entitle F.size title).setSide F.size side).2

theorem retouched_entitle (F : Forest) (id : Nat) (title : Option String) :
    Retouched id (fun node => { node with title := title.or node.title }) F (F.entitle id title) := by
  cases title with
  | none => exact .refl id F
  | some title => exact .modifyNode F id _ fun _ => rfl

theorem retouched_setSide (F : Forest) (id : Nat) (side : SideFilter) :
    Retouched id (fun node => { node with side }) F (F.setSide id side).2 :=
  .modifyNode F id _ fun _ => rfl

theorem sprout_entered {place handle : Option Nat} {x : NodeDraft} (there : F.HasPlace place)
    (leaf : x.children = []) (names : Names shared handles F x handle) :
    Entered shared handles place [x] F (F.sprout place handle x.title x.side) := by
  obtain ⟨-, size, lists⟩ := listAt_addNode there handle
  have touched := (retouched_entitle (F.addNode place handle).2 F.size x.title).trans
    (retouched_setSide _ F.size x.side)
  have grown := (Grown.addNode F place handle).trans touched.grown
  have alone : [x].flatMap all = [x] := by rw [List.flatMap_singleton, x.all_eq, leaf, List.flatMap_nil]
  exact {
    grown
    size := by
      rw [alone]
      exact touched.size.trans size
    counters := by
      rw [alone, sprout, touched.counters, counters_addNode there, Array.toList_push]
      rfl
    lists := fun p _ => (touched.lists p).trans (lists p)
    old := fun id before => by
      have apart : F.size ≠ id := Nat.ne_of_gt before
      rw [sprout, touched.bare, if_neg apart, bare_addNode there, if_neg apart.symm]
    new := fun p h => by
      rw [numbered, alone] at h
      obtain rfl := List.mem_singleton.1 h
      refine ⟨⟨handle, ?_, names.1.mono grown, names.2⟩, ?_⟩
      · rw [sprout, touched.bare, if_pos rfl, bare_addNode there, if_pos rfl, Option.map_some,
          Option.or_none]
      · have bottom := (touched.lists (some F.size)).trans (lists (some F.size))
        have apart : some F.size ≠ place := fun same => Nat.lt_irrefl _ (there F.size same.symm)
        rw [if_neg apart, List.append_nil] at bottom
        rw [leaf]
        exact bottom.trans (childrenOf_missing (Nat.le_refl F.size)) }

end Forest

open Forest (Entered Knows Names Resolves hasPlace_some listAt_addNode)

variable {shared : List (String × SharedDraft)} {handles : SharedHandles} {F : Forest}
  {place : Option Nat}

theorem orRefuse_modifyNode {id : Nat} (there : id < F.size) (f : Node → Node)
    (hf : ∀ node, (f node).children = node.children) :
    orRefuse (F.modifyNode id f hf) = .ok ((), (F.modifyNode id f hf).2) := by
  rw [Forest.modifyNode, if_pos there]
  rfl

theorem orRefuse_addNode (there : F.HasPlace place) (behavior : Option Nat) :
    orRefuse (F.addNode place behavior) = .ok (F.size, (F.addNode place behavior).2) := by
  obtain ⟨made, -, -⟩ := listAt_addNode there behavior
  generalize F.addNode place behavior = edited at made ⊢
  obtain ⟨answer, G⟩ := edited
  obtain rfl : answer = .ok F.size := made
  rfl

theorem enterBehavior_spec (material : String) (knows : Knows shared handles F) (x : NodeDraft) :
    Answers (enterBehavior material handles x F) x.Flawed fun (handle, G) =>
      (∃ table, G = { F with behaviors := table }) ∧ F.Grown G ∧ Names shared handles G x handle := by
  by_cases crowded : x.isCrowded = true
  · rw [enterBehavior, if_pos crowded]
    exact .inr (x.isCrowded_iff.1 crowded)
  have one : ¬ x.NamesTwo := mt x.isCrowded_iff.2 crowded
  cases use : x.shared with
  | some name =>
    have sound : ¬ x.Flawed := fun flaw =>
      one (flaw.elim (fun h => .inr (.inr ⟨h.1, by rw [use]; rfl⟩)) id)
    rw [enterBehavior, if_neg crowded, use]
    refine ⟨sound, ⟨F.behaviors, rfl⟩, .refl F, ?_, fun other same => ?_⟩
    · rw [NodeDraft.behavior?, use]
      exact knows name
    · rw [← Option.some.inj (use.symm.trans same)]
  | none =>
    have unused (handle : Option Nat) (name : String) (same : x.shared = some name) :
        handle = handles.lookup name := by
      rw [use] at same
      cases same
    have stated : x.behavior? shared = NodeDraft.authored? x.gate x.effect x.invert := by
      rw [NodeDraft.behavior?, use]
    have spec := writtenBehavior_spec x.gate x.effect x.invert
    rw [enterBehavior, if_neg crowded, use]
    cases written : writtenBehavior x.gate x.effect x.invert with
    | error flaw =>
      rw [written] at spec
      exact .inl spec
    | ok behavior =>
      rw [written] at spec
      obtain ⟨sound, rfl⟩ := spec
      have sound : ¬ x.Flawed := fun flaw => flaw.elim sound one
      rw [← stated]
      cases authored : x.behavior? shared with
      | none => exact ⟨sound, ⟨F.behaviors, rfl⟩, .refl F, authored ▸ ⟨rfl, rfl⟩, unused _⟩
      | some b =>
        exact ⟨sound, ⟨F.behaviors.push b, rfl⟩, .addBehavior F b,
          authored ▸ ⟨rfl, Array.getElem?_push_size⟩, unused _⟩

/-- Where the behavior can be entered and there is a place for the node, the node is made there. -/
theorem enterNode_eq {material : String} {x : NodeDraft} {handle : Option Nat} {G : Forest}
    (entered : enterBehavior material handles x F = .ok (handle, G)) (there : G.HasPlace place) :
    enterNode material handles place x F = .ok (G.size, G.sprout place handle x.title x.side) := by
  obtain ⟨-, size, -⟩ := listAt_addNode there handle
  have last : G.size < (G.addNode place handle).2.size := by omega
  have titled : G.size < ((G.addNode place handle).2.entitle G.size x.title).size := by
    rw [(Forest.retouched_entitle _ _ _).size]
    exact last
  have sided := orRefuse_modifyNode titled (fun node => { node with side := x.side }) fun _ => rfl
  rw [enterNode, entered]
  simp only [bind, Except.bind, orRefuse_addNode there]
  cases title : x.title with
  | none =>
    rw [title, Forest.entitle] at sided
    simp only [pure, Except.pure, Forest.setSide, sided]
    rfl
  | some text =>
    rw [title, Forest.entitle, Forest.setTitle] at sided
    have texted := orRefuse_modifyNode last (fun node => { node with title := some text }) fun _ => rfl
    simp only [Forest.setTitle, texted, Functor.map, Except.map, pure, Except.pure, Forest.setSide, sided]
    rfl

theorem enterNode_spec (material : String) (there : F.HasPlace place) (knows : Knows shared handles F)
    {x : NodeDraft} (leaf : x.children = []) :
    Answers (enterNode material handles place x F) x.Flawed fun (id, G) =>
      id = F.size ∧ Entered shared handles place [x] F G := by
  have spec := enterBehavior_spec material knows x
  cases entered : enterBehavior material handles x F with
  | error e =>
    rw [entered] at spec
    rw [enterNode, entered]
    exact spec
  | ok r =>
    obtain ⟨handle, G⟩ := r
    rw [entered] at spec
    obtain ⟨sound, ⟨table, rfl⟩, grown, names⟩ := spec
    rw [enterNode_eq entered there]
    have sprouted := Forest.sprout_entered (F := { F with behaviors := table }) there leaf names
    exact ⟨sound, rfl, { sprouted with grown := grown.trans sprouted.grown }⟩

theorem enterTrees_spec (material : String) (there : F.HasPlace place) (knows : Knows shared handles F)
    (xs : List NodeDraft) :
    Answers (enterTrees material handles place xs F) (∃ x ∈ xs.flatMap all, x.Flawed)
      (Entered shared handles place xs F) := by
  induction xs using NodeDraft.inductAll generalizing place F with
  | nil =>
    rw [enterTrees]
    exact ⟨by simp, .nil F⟩
  | cons x rest below later =>
    have tree : Answers (enterTree material handles place x F)
        (x.Flawed ∨ ∃ y ∈ x.children.flatMap all, y.Flawed) (Entered shared handles place [x] F) := by
      obtain ⟨title, side, gate, effect, use, invert, children⟩ := x
      have node := enterNode_spec material there knows
        (x := .mk title side gate effect use invert []) rfl
      rw [enterTree]
      refine node.bind fun ⟨id, G⟩ ⟨same, entered⟩ => ?_
      subst same
      have last : F.size < G.size := by
        rw [entered.size]
        exact Nat.lt_succ_self _
      have inner := below (hasPlace_some.2 last) (knows.mono entered.grown)
      exact inner.imp .rfl fun H => entered.below
    have row := tree.bind fun G first =>
      (later (there.mono first.grown.size) (knows.mono first.grown)).imp .rfl fun H second =>
        first.append second there
    rw [enterTrees]
    refine row.imp ?_ fun _ h => h
    simp only [mem_all_cons, or_and_right, exists_or, exists_eq_left, or_assoc]

/-! ## Entering the shared behaviors -/

theorem lookup_cons_of_ne {α : Type} {name other : String} (h : other ≠ name) (a : α)
    (entries : List (String × α)) : ((name, a) :: entries).lookup other = entries.lookup other := by
  rw [List.lookup_cons, beq_eq_false_iff_ne.2 h]

theorem Forest.Knows.cons_none {name : String} {s : SharedDraft} (h : Knows shared handles F)
    (fresh : name ∉ shared.map (·.1)) (stated : s.behavior? = none) :
    Knows ((name, s) :: shared) handles F := by
  intro other
  by_cases same : other = name
  · have unknown : shared.lookup name = none :=
      List.lookup_eq_none_iff.2 fun entry member => bne_iff_ne.2 fun same =>
        fresh (List.mem_map.2 ⟨entry, member, same.symm⟩)
    have none := h name
    rw [unknown] at none
    rw [same, List.lookup_cons_self, Option.bind_some, stated]
    exact none
  · rw [lookup_cons_of_ne same]
    exact h other

theorem Forest.Knows.cons_some {name : String} {s : SharedDraft} {handle : Nat} {b : Behavior}
    (h : Knows shared handles F) (stated : s.behavior? = some b)
    (entered : F.behaviors[handle]? = some b) :
    Knows ((name, s) :: shared) ((name, handle) :: handles) F := by
  intro other
  by_cases same : other = name
  · rw [same, List.lookup_cons_self, List.lookup_cons_self, Option.bind_some, stated]
    exact ⟨rfl, entered⟩
  · rw [lookup_cons_of_ne same, lookup_cons_of_ne same]
    exact h other

theorem enterShared_spec (material : String) (unique : (shared.map (·.1)).Nodup)
    (before : SharedHandles) (F : Forest) :
    Answers (enterShared material shared before F) (∃ s ∈ shared, s.2.Flawed) fun (after, G) =>
      (∃ table, G = { F with behaviors := table }) ∧ F.Grown G ∧
        ∃ new, after = before ++ new ∧ Knows shared new G := by
  induction shared generalizing before F with
  | nil =>
    rw [enterShared]
    exact ⟨by simp, ⟨F.behaviors, rfl⟩, .refl F, [], (List.append_nil _).symm, fun _ => ⟨rfl, rfl⟩⟩
  | cons entry rest ih =>
    obtain ⟨name, s⟩ := entry
    rw [List.map_cons, List.nodup_cons] at unique
    obtain ⟨fresh, unique⟩ := unique
    have spec := writtenBehavior_spec s.gate s.effect s.invert
    rw [enterShared]
    cases written : writtenBehavior s.gate s.effect s.invert with
    | error flaw =>
      rw [written] at spec
      exact ⟨_, List.mem_cons_self, spec⟩
    | ok behavior =>
      rw [written] at spec
      obtain ⟨sound, stated⟩ := spec
      have flaws : (∃ t ∈ rest, t.2.Flawed) ↔ ∃ t ∈ (name, s) :: rest, t.2.Flawed := by
        rw [List.exists_mem_cons_iff]
        exact (or_iff_right sound).symm
      cases behavior with
      | none =>
        refine (ih unique before F).imp flaws fun (after, G) ⟨same, grown, new, longer, knows⟩ => ?_
        exact ⟨same, grown, new, longer, knows.cons_none fresh stated.symm⟩
      | some b =>
        have first := Forest.Grown.addBehavior F b
        refine (ih unique (before ++ [(name, (F.addBehavior b).1)]) (F.addBehavior b).2).imp flaws
          fun (after, G) ⟨⟨table, same⟩, grown, new, longer, knows⟩ => ?_
        have named := grown.behaviors F.behaviors.size b Array.getElem?_push_size
        exact ⟨⟨table, same⟩, first.trans grown, (name, F.behaviors.size) :: new,
          longer.trans (List.append_assoc ..), knows.cons_some stated.symm named⟩

/-! ## Building -/

/-- The drafts of a material's nodes, each before those below it. -/
def MaterialDraft.authored (d : MaterialDraft) : List NodeDraft := d.nodes.flatMap all

theorem MaterialDraft.build_knows (d : MaterialDraft) (unique : (d.shared.map (·.1)).Nodup) :
    Answers d.build ((∃ s ∈ d.shared, s.2.Flawed) ∨ ∃ x ∈ d.authored, x.Flawed) fun material =>
      ∃ handles table, Knows d.shared handles material.forest ∧ Entered d.shared handles none d.nodes
        { Forest.empty d.name with behaviors := table } material.forest := by
  have sharing := enterShared_spec d.id unique [] (.empty d.name)
  rw [build]
  refine sharing.bind fun (handles, G) ⟨⟨table, same⟩, _, new, only, knows⟩ => ?_
  rw [List.nil_append] at only
  subst same only
  exact (enterTrees_spec d.id Forest.hasPlace_none knows d.nodes).map fun forest entered =>
    ⟨handles, table, knows.mono entered.grown, entered⟩

end Masquerade
