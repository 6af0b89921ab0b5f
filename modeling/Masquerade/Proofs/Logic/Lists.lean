import Masquerade.Proofs.Logic.Building

/-!
# The lists of a forest

A node stands in one list, that of the roots or that of the children of one node; `Forest.listAt` names
these lists by their places. A new node is the last of its list and everything else stays where it is
(`listAt_addNode`), so whatever is done to a forest, its lists only get longer at their ends, by nodes that
are new, and its table of behaviors only gets longer (`Forest.Grown`). Every list stays in the order in
which its nodes were made (`Forest.build_lists`).
-/

namespace Masquerade

open RandomWords (Stream)

namespace Forest

/-- The list of nodes at a place: the roots, or the children of a node. -/
def listAt (F : Forest) : Option Nat → List Nat
  | none => F.roots
  | some parent => F.childrenOf parent

/-- Whether the place is there: there are always roots, and a node has to exist to have children. -/
def HasPlace (F : Forest) (place : Option Nat) : Prop := ∀ parent, place = some parent → parent < F.size

variable {F G : Forest}

theorem childrenOf_eq_getD (F : Forest) (id : Nat) :
    F.childrenOf id = (F.nodes[id]?.map (·.children)).getD [] := by
  rw [childrenOf]
  cases F.nodes[id]? <;> rfl

theorem childrenOf_missing {id : Nat} (h : F.size ≤ id) : F.childrenOf id = [] := by
  rw [childrenOf, Array.getElem?_eq_none h]

/-! ## What an edit does to the lists -/

theorem listAt_addBehavior (F : Forest) (b : Behavior) (place : Option Nat) :
    (F.addBehavior b).2.listAt place = F.listAt place := by
  cases place <;> rfl

theorem listAt_run (F : Forest) (m : Moment) (targets : Targets) (rng : Stream) (place : Option Nat) :
    (F.run m targets rng).1.listAt place = F.listAt place := by
  cases place <;> rfl

theorem listAt_reset (F : Forest) (place : Option Nat) : F.reset.listAt place = F.listAt place := by
  cases place <;> rfl

theorem hasPlace_none : F.HasPlace none := fun _ h => nomatch h

theorem hasPlace_some {parent : Nat} : F.HasPlace (some parent) ↔ parent < F.size :=
  ⟨fun h => h parent rfl, fun h _ same => Option.some.inj same ▸ h⟩

/-- A node that is to be made at a place that is not there is refused, and nothing changes. -/
theorem addNode_of_not_hasPlace {place : Option Nat} (missing : ¬ F.HasPlace place)
    (behavior : Option Nat) : ∃ e, F.addNode place behavior = (.error e, F) := by
  cases place with
  | none => exact absurd hasPlace_none missing
  | some parent => exact ⟨_, dif_neg (mt hasPlace_some.2 missing)⟩

/-- A node that is made is the next in the table, and the last of its list. -/
theorem listAt_addNode {place : Option Nat} (there : F.HasPlace place) (behavior : Option Nat) :
    (F.addNode place behavior).1 = .ok F.size ∧
      (F.addNode place behavior).2.size = F.size + 1 ∧
      ∀ p, (F.addNode place behavior).2.listAt p =
        F.listAt p ++ if p = place then [F.size] else [] := by
  cases place with
  | none =>
    refine ⟨rfl, Array.size_push _, fun p => ?_⟩
    cases p with
    | none => rfl
    | some id =>
      rw [if_neg (Option.some_ne_none id), List.append_nil, listAt, listAt, childrenOf_eq_getD,
        childrenOf_eq_getD]
      simp only [addNode, Array.getElem?_push]
      split
      · next last => simp [last]
      · rfl
  | some parent =>
    have hp : parent < F.nodes.size := hasPlace_some.1 there
    simp only [addNode, dif_pos hp]
    refine ⟨trivial, by simp [size, linkChild], fun p => ?_⟩
    cases p with
    | none => exact (List.append_nil _).symm
    | some id =>
      simp only [listAt, childrenOf_eq_getD, linkChild, Array.getElem?_push, Array.size_modify,
        Array.getElem?_modify, Option.some.injEq]
      by_cases last : id = F.nodes.size
      · -- the new node has no children, and it is not its own parent
        rw [if_pos last, last, if_neg (Nat.ne_of_gt hp)]
        simp
      · rw [if_neg last]
        by_cases same : parent = id
        · rw [if_pos same, if_pos same.symm, ← same, Array.getElem?_eq_getElem hp]
          rfl
        · rw [if_neg same, if_neg (Ne.symm same), List.append_nil]

/-- A change that leaves children alone leaves all lists alone. -/
theorem listAt_modifyNode (F : Forest) (id : Nat) (f : Node → Node)
    (hf : ∀ node, (f node).children = node.children) (place : Option Nat) :
    (F.modifyNode id f hf).2.listAt place = F.listAt place := by
  unfold modifyNode
  split
  · cases place with
    | none => rfl
    | some parent =>
      simp only [listAt, childrenOf_eq_getD, Array.getElem?_modify]
      split
      · cases F.nodes[parent]? with
        | none => rfl
        | some node => exact hf node
      · rfl
  · rfl

theorem size_modifyNode (F : Forest) (id : Nat) (f : Node → Node)
    (hf : ∀ node, (f node).children = node.children) : (F.modifyNode id f hf).2.size = F.size := by
  unfold modifyNode
  split
  · exact Array.size_modify
  · rfl

theorem behaviors_addNode (F : Forest) (place behavior : Option Nat) :
    (F.addNode place behavior).2.behaviors = F.behaviors := by
  cases place with
  | none => rfl
  | some parent =>
    rw [addNode]
    split <;> rfl

theorem behaviors_modifyNode (F : Forest) (id : Nat) (f : Node → Node)
    (hf : ∀ node, (f node).children = node.children) :
    (F.modifyNode id f hf).2.behaviors = F.behaviors := by
  unfold modifyNode
  split <;> rfl

/-- The group is the node that was made, with a title. -/
theorem addGroup_snd (F : Forest) (place : Option Nat) (title : String) :
    (F.addGroup place title).1 = (F.addNode place none).1 ∧
      ((F.addGroup place title).2 = (F.addNode place none).2 ∨
        ∃ id, (F.addGroup place title).2 = ((F.addNode place none).2.setTitle id title).2) := by
  unfold addGroup
  split
  · next id G hG => exact ⟨by rw [hG], .inr ⟨id, by rw [hG]⟩⟩
  · next e G hG => exact ⟨by rw [hG], .inl (by rw [hG])⟩

/-! ## Growing -/

/-- The forest has got longer lists and a longer table of behaviors, and what was in them before is where it
was. -/
structure Grown (F G : Forest) : Prop where
  size : F.size ≤ G.size
  lists (place : Option Nat) : ∃ new, G.listAt place = F.listAt place ++ new ∧ ∀ id ∈ new, F.size ≤ id
  behaviors (handle : Nat) (b : Behavior) (h : F.behaviors[handle]? = some b) :
    G.behaviors[handle]? = some b

namespace Grown

/-- The same lists, and a table of behaviors that has not lost any. -/
theorem of_lists (size : G.size = F.size) (lists : ∀ place, G.listAt place = F.listAt place)
    (behaviors : ∀ (handle : Nat) b, F.behaviors[handle]? = some b → G.behaviors[handle]? = some b) :
    F.Grown G where
  size := Nat.le_of_eq size.symm
  lists place := ⟨[], by rw [lists, List.append_nil], fun _ h => nomatch h⟩
  behaviors := behaviors

theorem refl (F : Forest) : F.Grown F := of_lists rfl (fun _ => rfl) fun _ _ h => h

theorem trans {H : Forest} (h : F.Grown G) (h' : G.Grown H) : F.Grown H where
  size := Nat.le_trans h.size h'.size
  lists place := by
    obtain ⟨first, hG, later⟩ := h.lists place
    obtain ⟨second, hH, last⟩ := h'.lists place
    refine ⟨first ++ second, by rw [hH, hG, List.append_assoc], fun id hid => ?_⟩
    rcases List.mem_append.1 hid with hid | hid
    · exact later id hid
    · exact Nat.le_trans h.size (last id hid)
  behaviors handle b hb := h'.behaviors handle b (h.behaviors handle b hb)

theorem addBehavior (F : Forest) (b : Behavior) : F.Grown (F.addBehavior b).2 := by
  refine of_lists rfl (F.listAt_addBehavior b) fun handle b' hb => ?_
  have before : handle < F.behaviors.size := (Array.getElem?_eq_some_iff.1 hb).1
  exact (Array.getElem?_push_lt before).trans (Array.getElem?_eq_getElem before ▸ hb)

theorem addNode (F : Forest) (place behavior : Option Nat) :
    F.Grown (F.addNode place behavior).2 := by
  by_cases there : F.HasPlace place
  · obtain ⟨-, size, lists⟩ := listAt_addNode there behavior
    refine ⟨by omega, fun p => ⟨_, lists p, fun id hid => ?_⟩, fun handle b hb => ?_⟩
    · split at hid
      · exact Nat.le_of_eq (List.mem_singleton.1 hid).symm
      · cases hid
    · rw [behaviors_addNode]
      exact hb
  · obtain ⟨e, refused⟩ := addNode_of_not_hasPlace there behavior
    rw [refused]
    exact refl F

theorem modifyNode (F : Forest) (id : Nat) (f : Node → Node)
    (hf : ∀ node, (f node).children = node.children) : F.Grown (F.modifyNode id f hf).2 :=
  of_lists (F.size_modifyNode id f hf) (F.listAt_modifyNode id f hf) fun handle b hb => by
    rw [behaviors_modifyNode]
    exact hb

/-- Every operation lets the forest grow at most. -/
theorem apply (F : Forest) (op : Op) : F.Grown (F.apply op) := by
  cases op with
  | addBehavior b => exact addBehavior F b
  | addNode place behavior => exact addNode F place behavior
  | addGate place gate => exact (addBehavior F (.gate gate)).trans (addNode _ place _)
  | addEffect place effect => exact (addBehavior F (.effect effect)).trans (addNode _ place _)
  | addGroup place title =>
    have made := addNode F place none
    show F.Grown (F.addGroup place title).2
    obtain ⟨-, same | ⟨id, titled⟩⟩ := F.addGroup_snd place title
    · rw [same]
      exact made
    · rw [titled]
      exact made.trans (modifyNode _ id _ _)
  | setTitle id title => exact modifyNode F id _ _
  | setSide id side => exact modifyNode F id _ _
  | run m targets rng => exact of_lists rfl (F.listAt_run m targets rng) fun _ _ h => h
  | reset => exact of_lists rfl F.listAt_reset fun _ _ h => h

theorem foldl (F : Forest) (ops : List Op) : F.Grown (ops.foldl Forest.apply F) := by
  induction ops generalizing F with
  | nil => exact refl F
  | cons op rest ih => exact (apply F op).trans (ih (F.apply op))

end Grown

/-! ## The order of the lists -/

/-- Every list is in the order of its positions. -/
def Ordered (F : Forest) : Prop := ∀ place, (F.listAt place).Pairwise (· < ·)

theorem Planted.lt_size_of_mem_listAt (h : F.Planted) {place : Option Nat} {id : Nat}
    (hid : id ∈ F.listAt place) : id < F.size := by
  cases place with
  | none => exact h.lt_size_root hid
  | some parent => exact h.lt_size_child hid

theorem Ordered.of_lists (h : F.Ordered) (lists : ∀ place, G.listAt place = F.listAt place) :
    G.Ordered := fun place => by
  rw [lists]
  exact h place

theorem Ordered.addNode (h : F.Ordered) (planted : F.Planted) (place behavior : Option Nat) :
    (F.addNode place behavior).2.Ordered := by
  by_cases there : F.HasPlace place
  · obtain ⟨-, -, lists⟩ := listAt_addNode there behavior
    intro p
    rw [lists]
    split
    · refine List.pairwise_append.2 ⟨h p, List.pairwise_singleton .., fun id hid last hlast => ?_⟩
      rw [List.mem_singleton.1 hlast]
      exact planted.lt_size_of_mem_listAt hid
    · rw [List.append_nil]
      exact h p
  · obtain ⟨e, refused⟩ := addNode_of_not_hasPlace there behavior
    rw [refused]
    exact h

theorem Ordered.apply (h : F.Ordered) (planted : F.Planted) (op : Op) : (F.apply op).Ordered := by
  cases op with
  | addBehavior b => exact h.of_lists (F.listAt_addBehavior b)
  | addNode place behavior => exact h.addNode planted place behavior
  | addGate place gate =>
    exact (h.of_lists (F.listAt_addBehavior _)).addNode (planted.addBehavior _) place _
  | addEffect place effect =>
    exact (h.of_lists (F.listAt_addBehavior _)).addNode (planted.addBehavior _) place _
  | addGroup place title =>
    have made := h.addNode planted place none
    show (F.addGroup place title).2.Ordered
    obtain ⟨-, same | ⟨id, titled⟩⟩ := F.addGroup_snd place title
    · rw [same]
      exact made
    · rw [titled]
      exact made.of_lists (listAt_modifyNode _ id _ _)
  | setTitle id title => exact h.of_lists (F.listAt_modifyNode id _ _)
  | setSide id side => exact h.of_lists (F.listAt_modifyNode id _ _)
  | run m targets rng => exact h.of_lists (F.listAt_run m targets rng)
  | reset => exact h.of_lists F.listAt_reset

theorem ordered_build (label : String) (ops : List Op) : (build label ops).Ordered := by
  suffices ∀ F : Forest, F.Planted → F.Ordered → (ops.foldl apply F).Ordered from
    this (empty label) (planted_empty label) fun place => by cases place <;> exact .nil
  induction ops with
  | nil => exact fun _ _ h => h
  | cons op rest ih => exact fun F planted h => ih (F.apply op) (planted.apply op) (h.apply planted op)

/-! ## Built forests -/

/-- The place at which an operation is to make a node, if it is to make one, with its answer. -/
def making? (F : Forest) : Op → Option (Option Nat × Except NodeError Nat)
  | .addNode place behavior => some (place, (F.addNode place behavior).1)
  | .addGate place gate => some (place, (F.addGate place gate).1)
  | .addEffect place effect => some (place, (F.addEffect place effect).1)
  | .addGroup place title => some (place, (F.addGroup place title).1)
  | _ => none

theorem mem_listAt_addNode {place behavior : Option Nat} {id : Nat}
    (made : (F.addNode place behavior).1 = .ok id) : id ∈ (F.addNode place behavior).2.listAt place := by
  by_cases there : F.HasPlace place
  · obtain ⟨answer, -, lists⟩ := listAt_addNode there behavior
    obtain rfl : F.size = id := Except.ok.inj (answer.symm.trans made)
    rw [lists, if_pos rfl]
    exact List.mem_append_right _ (List.mem_singleton_self _)
  · obtain ⟨e, refused⟩ := addNode_of_not_hasPlace there behavior
    rw [refused] at made
    cases made

/-- A node that is answered stands at the place that was named. -/
theorem mem_listAt_apply {op : Op} {place : Option Nat} {id : Nat}
    (made : F.making? op = some (place, .ok id)) : id ∈ (F.apply op).listAt place := by
  cases op with
  | addNode p behavior | addGate p gate | addEffect p effect =>
    obtain ⟨rfl, answered⟩ := Prod.mk.inj (Option.some.inj made)
    exact mem_listAt_addNode answered
  | addGroup p title =>
    obtain ⟨rfl, answered⟩ := Prod.mk.inj (Option.some.inj made)
    obtain ⟨answer, grouped⟩ := F.addGroup_snd p title
    have stands := mem_listAt_addNode (answer.symm.trans answered)
    show id ∈ (F.addGroup p title).2.listAt p
    obtain same | ⟨i, titled⟩ := grouped
    · rw [same]
      exact stands
    · rw [titled, setTitle, listAt_modifyNode]
      exact stands
  | addBehavior | setTitle | setSide | run | reset => cases made

theorem build_append (label : String) (ops later : List Op) :
    build label (ops ++ later) = later.foldl apply (build label ops) :=
  List.foldl_append

/-- Whatever has been done to a forest, and whichever of it was refused: among the roots and the children of
all nodes, every position of the table occurs exactly once and no other occurs; the roots and the children of
every node stand in the order of their positions; and children come after their parents. Whatever is done
later, lists get longer at their ends only, a node stays in its list and comes into no other, and positions
of behaviors keep their behaviors. In particular a node that was answered stands from then on at the place
that was named, and the position that was answered for a behavior has this behavior. -/
theorem build_lists (label : String) (ops later : List Op) :
    let F := build label ops
    let G := build label (ops ++ later)
    (∀ id, F.links.count id = if id < F.size then 1 else 0) ∧
      (∀ place, (F.listAt place).Pairwise (· < ·)) ∧
      (∀ parent, ∀ child ∈ F.childrenOf parent, parent < child) ∧
      (∀ place, ∃ new, G.listAt place = F.listAt place ++ new ∧ ∀ id ∈ new, F.size ≤ id) ∧
      (∀ id < F.size, ∀ place, id ∈ G.listAt place ↔ id ∈ F.listAt place) ∧
      (∀ (handle : Nat) b, F.behaviors[handle]? = some b → G.behaviors[handle]? = some b) ∧
      ∀ op, let H := build label (ops ++ op :: later)
        (∀ place id, F.making? op = some (place, .ok id) → id ∈ H.listAt place) ∧
        ∀ b, op = .addBehavior b → H.behaviors[(F.addBehavior b).1]? = some b := by
  intro F G
  have planted : F.Planted := planted_build label ops
  have grown : F.Grown G := by
    rw [show G = _ from build_append label ops later]
    exact .foldl F later
  refine ⟨fun id => ?_, ordered_build label ops, fun parent child hc => (lt_of_mem_childrenOf hc).1,
    grown.lists, fun id hid place => ?_, grown.behaviors, fun op => ?_⟩
  · rw [planted.once.count_eq]
    split
    · next before => exact List.count_eq_one_of_mem List.nodup_range (List.mem_range.2 before)
    · next behind => exact List.count_eq_zero.2 (mt List.mem_range.1 behind)
  · obtain ⟨new, longer, behind⟩ := grown.lists place
    rw [longer, List.mem_append]
    exact or_iff_left fun h => absurd (behind id h) (Nat.not_le.2 hid)
  · intro H
    have after : (F.apply op).Grown H := by
      rw [show H = _ from build_append label ops (op :: later)]
      exact .foldl (F.apply op) later
    refine ⟨fun place id made => ?_, ?_⟩
    · obtain ⟨new, longer, -⟩ := after.lists place
      rw [longer]
      exact List.mem_append_left _ (mem_listAt_apply made)
    · rintro b rfl
      exact after.behaviors _ b Array.getElem?_push_size

/-- A hedge that grows while some of its edits are refused: below a missing node nothing is made, but the
behavior of the refused gate stays in the table. -/
theorem hedge_grows :
    let ops : List Op := [.addGate none ⟨.phase .attackModify, false⟩, .addNode (some 5) none,
      .addGate (some 9) ⟨.waitEvery 2, true⟩, .addNode (some 0) (some 7), .setSide 4 .player,
      .addNode none none]
    let group : Op := .addGroup (some 1) "leaves"
    let later : List Op := [.addNode (some 0) none, .addNode (some 2) none, .reset]
    let F := build "hedge" ops
    let G := build "hedge" (ops ++ later)
    F.roots = [0, 2] ∧ 1 ∈ F.childrenOf 0 ∧ 0 < 1 ∧ F.links.count 2 = 1 ∧ F.links.count 5 = 0 ∧
      (∃ new, G.childrenOf 0 = [1] ++ new ∧ ∀ id ∈ new, 3 ≤ id) ∧ 2 < F.size ∧ 2 ∉ G.childrenOf 0 ∧
      F.behaviors[1]? = some (.gate ⟨.waitEvery 2, true⟩) ∧
      G.behaviors[1]? = some (.gate ⟨.waitEvery 2, true⟩) ∧
      F.making? group = some (some 1, .ok 3) ∧
      3 ∈ (build "hedge" (ops ++ group :: later)).childrenOf 1 ∧
      (F.addBehavior (.gate ⟨.battleEnd, false⟩)).1 = 2 ∧
      (build "hedge" (ops ++ .addBehavior (.gate ⟨.battleEnd, false⟩) :: later)).behaviors[2]? =
        some (.gate ⟨.battleEnd, false⟩) := by
  intro ops group later F G
  obtain ⟨once, -, forward, longer, stays, resolves, after⟩ := build_lists "hedge" ops later
  have child : 1 ∈ F.childrenOf 0 := by decide
  have there : 2 < F.size := by decide
  have gate : F.behaviors[1]? = some (.gate ⟨.waitEvery 2, true⟩) := by decide
  have made : F.making? group = some (some 1, .ok 3) := rfl
  have entered := (after (.addBehavior (.gate ⟨.battleEnd, false⟩))).2 _ rfl
  exact ⟨by decide, child, forward 0 1 child, once 2, once 5, longer (some 0), there,
    mt (stays 2 there (some 0)).1 (by decide), gate, resolves 1 _ gate, made,
    (after group).1 (some 1) 3 made, by decide, entered⟩

end Forest

end Masquerade
