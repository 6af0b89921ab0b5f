import Masquerade.Proofs.Content.Authored

/-!
# Inversions

An inversion belongs to a gate. Written at an effect it is refused, and every refusal names the material whose
draft is flawed (`MaterialDraft.build_error`). Written where there is neither, at a group or beside a reference,
it is ignored: a draft builds exactly what it builds without such inversions (`MaterialDraft.build_tidy`).
-/

namespace Masquerade

open Forest (Knows hasPlace_none hasPlace_some)

/-! ## Inversions of nothing -/

/-- Whether an inversion is written where there is a gate or an effect. -/
def invertsWritten (gate : Option GateDraft) (effect : Option EffectDraft) (invert : Bool) : Bool :=
  invert && (gate.isSome || effect.isSome)

/-- The draft without an inversion of nothing. -/
def SharedDraft.tidy (s : SharedDraft) : SharedDraft :=
  { s with invert := invertsWritten s.gate s.effect s.invert }

mutual

/-- The draft, and those below it, without inversions of nothing. -/
def NodeDraft.tidy : NodeDraft → NodeDraft
  | .mk title side gate effect shared invert children =>
    .mk title side gate effect shared (invertsWritten gate effect invert) (tidyAll children)

/-- The drafts of a row, and those below them, without inversions of nothing. -/
def NodeDraft.tidyAll : List NodeDraft → List NodeDraft
  | [] => []
  | x :: rest => x.tidy :: tidyAll rest

end

/-- The draft of a material without inversions of nothing. -/
def MaterialDraft.tidy (d : MaterialDraft) : MaterialDraft :=
  { d with
    shared := d.shared.map fun (name, s) => (name, s.tidy)
    nodes := NodeDraft.tidyAll d.nodes }

theorem writtenBehavior_tidy (gate : Option GateDraft) (effect : Option EffectDraft) (invert : Bool) :
    writtenBehavior gate effect (invertsWritten gate effect invert) = writtenBehavior gate effect invert := by
  cases gate <;> cases effect <;> cases invert <;> rfl

theorem enterShared_tidy (material : String) (shared : List (String × SharedDraft)) (handles : SharedHandles)
    (F : Forest) :
    enterShared material (shared.map fun (name, s) => (name, s.tidy)) handles F =
      enterShared material shared handles F := by
  induction shared generalizing handles F with
  | nil => rfl
  | cons entry rest ih =>
    obtain ⟨name, s⟩ := entry
    have written : writtenBehavior s.tidy.gate s.tidy.effect s.tidy.invert =
        writtenBehavior s.gate s.effect s.invert := writtenBehavior_tidy s.gate s.effect s.invert
    simp only [List.map_cons, enterShared, written, ih]

theorem enterNode_tidy (material : String) (handles : SharedHandles) (place : Option Nat)
    (title : Option String) (side : SideFilter) (gate : Option GateDraft) (effect : Option EffectDraft)
    (shared : Option String) (invert : Bool) (F : Forest) :
    enterNode material handles place (.mk title side gate effect shared (invertsWritten gate effect invert) [])
        F =
      enterNode material handles place (.mk title side gate effect shared invert []) F := by
  have behavior :
      enterBehavior material handles
          (.mk title side gate effect shared (invertsWritten gate effect invert) []) F =
        enterBehavior material handles (.mk title side gate effect shared invert []) F := by
    simp only [enterBehavior, NodeDraft.gate, NodeDraft.effect, NodeDraft.shared, NodeDraft.invert,
      writtenBehavior_tidy]
    rfl
  rw [enterNode, enterNode, behavior]
  rfl

theorem enterTrees_tidy (material : String) (handles : SharedHandles) (place : Option Nat)
    (xs : List NodeDraft) (F : Forest) :
    enterTrees material handles place (NodeDraft.tidyAll xs) F = enterTrees material handles place xs F := by
  induction xs using NodeDraft.inductAll generalizing place F with
  | nil => rfl
  | cons x rest below later =>
    obtain ⟨title, side, gate, effect, shared, invert, children⟩ := x
    simp only [NodeDraft.children] at below
    simp only [NodeDraft.tidyAll, NodeDraft.tidy, enterTrees, enterTree, enterNode_tidy, below, later]

/-- Inversions of nothing change nothing: neither what is built nor what is refused. -/
theorem MaterialDraft.build_tidy (d : MaterialDraft) : d.tidy.build = d.build := by
  simp only [build, tidy, enterShared_tidy, enterTrees_tidy]

/-! ## Refused drafts -/

/-- Refusals of the draft of a material. -/
def GameError.OfDraft (material : String) : GameError → Prop
  | .sharedBehavior m _ _ | .nodeBehavior m _ | .crowdedNode m => m = material
  | _ => False

/-- They are flaws of the content, and name the material. -/
theorem GameError.OfDraft.message {material : String} {e : GameError} (h : e.OfDraft material) :
    ∃ problem, e.message = configuration (material ++ problem) := by
  cases e with
  | sharedBehavior m name flaw =>
    obtain rfl : m = material := h
    refine ⟨": shared '" ++ name ++ "': " ++ flaw.message, congrArg configuration ?_⟩
    simp only [toString, String.append_assoc]
  | nodeBehavior m flaw =>
    obtain rfl : m = material := h
    refine ⟨": " ++ flaw.message, congrArg configuration ?_⟩
    simp only [toString, String.append_assoc]
  | crowdedNode m =>
    obtain rfl : m = material := h
    exact ⟨": a node may name only one of gate, effect or use", rfl⟩
  | _ => exact h.elim

variable {material : String} {shared : List (String × SharedDraft)} {handles : SharedHandles} {F : Forest}
  {place : Option Nat} {e : GameError}

theorem enterShared_error (h : enterShared material shared handles F = .error e) : e.OfDraft material := by
  induction shared generalizing handles F with
  | nil => cases h
  | cons entry rest ih =>
    rw [enterShared] at h
    split at h
    · cases h
      rfl
    · exact ih h
    · exact ih h

theorem enterBehavior_error {x : NodeDraft} (h : enterBehavior material handles x F = .error e) :
    e.OfDraft material := by
  rw [enterBehavior] at h
  split at h
  · cases h
    rfl
  · split at h
    · cases h
    · split at h
      · cases h
        rfl
      · cases h
      · cases h

theorem enterNode_error (there : F.HasPlace place) (knows : Knows shared handles F) {x : NodeDraft}
    (h : enterNode material handles place x F = .error e) : e.OfDraft material := by
  have spec := enterBehavior_spec material knows x
  cases entered : enterBehavior material handles x F with
  | error e' =>
    rw [enterNode, entered] at h
    cases h
    exact enterBehavior_error entered
  | ok r =>
    obtain ⟨handle, G⟩ := r
    rw [entered] at spec
    obtain ⟨-, ⟨table, rfl⟩, -, -⟩ := spec
    rw [enterNode_eq entered there] at h
    cases h

theorem enterTrees_error (there : F.HasPlace place) (knows : Knows shared handles F) {xs : List NodeDraft}
    (h : enterTrees material handles place xs F = .error e) : e.OfDraft material := by
  induction xs using NodeDraft.inductAll generalizing place F with
  | nil => cases h
  | cons x rest below later =>
    have row := enterTrees_spec material there knows [x]
    rw [enterTrees] at h
    cases tree : enterTree material handles place x F with
    | error e' =>
      -- the node itself is refused, or the row of its children
      rw [tree] at h
      cases h
      obtain ⟨title, side, gate, effect, use, invert, children⟩ := x
      have node := enterNode_spec material there knows (x := .mk title side gate effect use invert []) rfl
      rw [enterTree] at tree
      cases made : enterNode material handles place (.mk title side gate effect use invert []) F with
      | error e' =>
        rw [made] at tree
        cases tree
        exact enterNode_error there knows made
      | ok r =>
        obtain ⟨id, G⟩ := r
        rw [made] at node tree
        obtain ⟨-, rfl, entered⟩ := node
        have last : F.size < G.size := by
          rw [entered.size]
          exact Nat.lt_succ_self _
        exact below (hasPlace_some.2 last) (knows.mono entered.grown) tree
    | ok G =>
      rw [enterTrees, tree] at row
      rw [tree] at h
      obtain ⟨-, entered⟩ := row
      exact later (there.mono entered.grown.size) (knows.mono entered.grown) h

/-- A material is refused only for a flaw of its draft. -/
theorem MaterialDraft.build_error {d : MaterialDraft} (unique : (d.shared.map (·.1)).Nodup)
    (h : d.build = .error e) : e.OfDraft d.id := by
  have sharing := enterShared_spec d.id unique [] (.empty d.name)
  rw [build] at h
  cases entered : enterShared d.id d.shared [] (.empty d.name) with
  | error e' =>
    rw [entered] at h
    cases h
    exact enterShared_error entered
  | ok r =>
    obtain ⟨handles, G⟩ := r
    rw [entered] at sharing h
    obtain ⟨-, ⟨table, rfl⟩, -, new, only, knows⟩ := sharing
    rw [List.nil_append] at only
    subst only
    cases trees : enterTrees d.id handles none d.nodes { Forest.empty d.name with behaviors := table } with
    | error e' =>
      simp only [bind, Except.bind, trees] at h
      cases h
      exact enterTrees_error hasPlace_none knows trees
    | ok forest =>
      simp only [bind, Except.bind, trees] at h
      cases h

/-! ## Inverted drafts -/

theorem effect_eq_none_of_inverted {gate : Option GateDraft} {effect : Option EffectDraft} {invert : Bool}
    (inverted : invert = true) (sound : ¬ NodeDraft.Contradicts gate effect invert) : effect = none :=
  Option.not_isSome_iff_eq_none.1 fun some => sound ⟨some, .inr inverted⟩

/-- An inverted draft without a flaw stands for its gate, inverted, or for what it refers to. -/
theorem NodeDraft.behavior?_inverted {x : NodeDraft} (clean : ¬ x.Flawed) (inverted : x.invert = true) :
    match x.gate with
    | some gate => x.shared = none ∧ x.behavior? shared = some (.gate ⟨gate.condition, true⟩)
    | none => x.behavior? shared = (x.shared.bind (shared.lookup ·)).bind SharedDraft.behavior? := by
  have bare := effect_eq_none_of_inverted inverted fun flaw => clean (.inl flaw)
  rw [behavior?, bare, inverted]
  cases hg : x.gate with
  | none => cases x.shared <;> rfl
  | some gate =>
    have unused : x.shared = none :=
      Option.not_isSome_iff_eq_none.1 fun some => clean (.inr (.inr (.inl ⟨by rw [hg]; rfl, some⟩)))
    exact ⟨unused, by rw [unused]; rfl⟩

theorem lookup_of_mem {α : Type} {name : String} {a : α} {entries : List (String × α)}
    (unique : (entries.map (·.1)).Nodup) (h : (name, a) ∈ entries) : entries.lookup name = some a := by
  induction entries with
  | nil => exact absurd h List.not_mem_nil
  | cons entry rest ih =>
    obtain ⟨first, b⟩ := entry
    rw [List.map_cons, List.nodup_cons] at unique
    obtain ⟨fresh, unique⟩ := unique
    rcases List.mem_cons.1 h with same | later
    · cases same
      exact List.lookup_cons_self
    · have apart : name ≠ first := fun same => fresh (List.mem_map.2 ⟨_, later, same⟩)
      rw [lookup_cons_of_ne apart]
      exact ih unique later

/-- The name of an inverted shared gate has a position, and the gate stands there inverted. -/
theorem Forest.Knows.exists_inverted {name : String} {s : SharedDraft} {gate : GateDraft}
    (knows : Knows shared handles F) (unique : (shared.map (·.1)).Nodup) (member : (name, s) ∈ shared)
    (inverted : s.invert = true) (hg : s.gate = some gate) :
    ∃ handle, handles.lookup name = some handle ∧
      F.behaviors[handle]? = some (.gate ⟨gate.condition, true⟩) := by
  have stated : s.behavior? = some (.gate ⟨gate.condition, true⟩) := by
    rw [SharedDraft.behavior?, hg, inverted]
    rfl
  obtain ⟨named, resolves⟩ := knows name
  rw [lookup_of_mem unique member, Option.bind_some, stated] at named resolves
  obtain ⟨handle, found⟩ := Option.isSome_iff_exists.1 named
  rw [found] at resolves
  exact ⟨handle, found, resolves⟩

/-- Building ignores an inversion of nothing and refuses that of an effect as a flaw of the content. In what is
built, an inverted draft with a gate stands for that gate, inverted, whether it is shared or written at a node;
one without a gate has no effect either, and its node has the behavior of the name that it refers to, if it
refers to one, as if it were not inverted. -/
theorem MaterialDraft.build_inverted (d : MaterialDraft) (unique : (d.shared.map (·.1)).Nodup) :
    d.tidy.build = d.build ∧
    ((∃ s ∈ d.shared, s.2.invert = true ∧ s.2.effect.isSome = true) ∨
        (∃ x ∈ d.authored, x.invert = true ∧ x.effect.isSome = true) →
      ∃ e, d.build = .error e ∧ e.OfDraft d.id ∧
        ∃ problem, e.message = GameError.configuration (d.id ++ problem)) ∧
    ∀ material, d.build = .ok material →
      let F := material.forest
      (∀ (name : String) (s : SharedDraft), (name, s) ∈ d.shared → s.invert = true → s.effect = none ∧
        ∀ gate, s.gate = some gate → ∃ handle,
          F.behaviors[handle]? = some (.gate ⟨gate.condition, true⟩) ∧
          ∀ (i : Nat) (x : NodeDraft), d.authored[i]? = some x → x.shared = some name →
            F.nodes[i]?.map (·.behavior) = some (some handle)) ∧
      ∀ (i : Nat) (x : NodeDraft), d.authored[i]? = some x → x.invert = true → x.effect = none ∧
        ∃ node, F.nodes[i]? = some node ∧
          match x.gate with
          | some gate => x.shared = none ∧ F.behaviorOf node = some (.gate ⟨gate.condition, true⟩)
          | none => F.behaviorOf node = (x.shared.bind (d.shared.lookup ·)).bind SharedDraft.behavior? := by
  have spec := d.build_knows unique
  refine ⟨d.build_tidy, fun inverted => ?_, fun material built => ?_⟩
  · have flawed : (∃ s ∈ d.shared, s.2.Flawed) ∨ ∃ x ∈ d.authored, x.Flawed := by
      refine inverted.imp ?_ ?_
      · rintro ⟨s, member, invert, effect⟩
        exact ⟨s, member, effect, .inr invert⟩
      · rintro ⟨x, member, invert, effect⟩
        exact ⟨x, member, .inl ⟨effect, .inr invert⟩⟩
    obtain ⟨e, refused⟩ := spec.error_iff.2 flawed
    have flaw := build_error unique refused
    exact ⟨e, refused, flaw, flaw.message⟩
  rw [built] at spec
  obtain ⟨sound, handles, table, knows, entered⟩ := spec
  have stands {i : Nat} {x : NodeDraft} (hx : d.authored[i]? = some x) :=
    (entered.new (x, i) (List.mem_zipIdx_iff_getElem?.2 hx)).1.exists_node
  refine ⟨fun name s member inverted => ⟨?_, fun gate hg => ?_⟩, fun i x hx inverted => ?_⟩
  · exact effect_eq_none_of_inverted inverted fun flaw => sound (.inl ⟨_, member, flaw⟩)
  · obtain ⟨handle, found, stood⟩ := knows.exists_inverted unique member inverted hg
    refine ⟨handle, stood, fun i x hx use => ?_⟩
    obtain ⟨node, hn, -, -, -, used⟩ := stands hx
    rw [hn, Option.map_some, used name use, found]
  · have clean : ¬ x.Flawed := fun flaw => sound (.inr ⟨x, List.mem_of_getElem? hx, flaw⟩)
    obtain ⟨node, hn, -, -, ⟨-, resolves⟩, -⟩ := stands hx
    have behavior : material.forest.behaviorOf node = x.behavior? d.shared := resolves
    refine ⟨effect_eq_none_of_inverted inverted fun flaw => clean (.inl flaw), node, hn, ?_⟩
    rw [behavior]
    exact x.behavior?_inverted clean inverted

/-- An inverted shared gate with a use, an inverted gate below it, and two inversions of nothing: at a use of a
gate that is not inverted, and at a group. -/
def shutters : MaterialDraft where
  id := "shutters"
  name := "Shutters"
  manaCost := 1
  quality := .common
  shelfLifeTurns := 1
  shared := [("dawn", ⟨some .battleStart, none, false⟩), ("dusk", ⟨some .battleEnd, none, true⟩)]
  nodes := [
    .mk none .both none none (some "dusk") false [
      .mk none .both (some (.nthAttack 2)) none none true []],
    .mk none .both none none (some "dawn") true [],
    .mk (some "porch") .both none none none true []]

/-- The use of the inverted shared gate and the gate below it are inverted in the forest, and clearing every
inversion of nothing gives the same material. -/
theorem shutters_closed : (shutters.shared.map (·.1)).Nodup ∧ shutters.tidy.build = shutters.build ∧
    ∃ material, shutters.build = .ok material ∧
      material.forest.nodes[1]?.bind material.forest.behaviorOf = some (.gate ⟨.nthAttack 2, true⟩) ∧
      ∃ handle, material.forest.behaviors[handle]? = some (.gate ⟨.battleEnd, true⟩) ∧
        material.forest.nodes[0]?.map (·.behavior) = some (some handle) := by
  have unique : (shutters.shared.map (·.1)).Nodup := by decide
  have accepted : shutters.build.toOption.isSome = true := by decide +kernel
  obtain ⟨tidied, -, made⟩ := shutters.build_inverted unique
  refine ⟨unique, tidied, ?_⟩
  cases built : shutters.build with
  | error e =>
    rw [built] at accepted
    cases accepted
  | ok material =>
    obtain ⟨entries, nodes⟩ := made material built
    obtain ⟨-, node, found, -, gate⟩ := nodes 1 _ rfl rfl
    obtain ⟨-, gates⟩ := entries "dusk" _ (.tail _ (.head _)) rfl
    obtain ⟨handle, gate', uses⟩ := gates _ rfl
    exact ⟨material, rfl, by rw [found]; exact gate, handle, gate', uses 0 _ rfl rfl⟩

/-- The two inversions of nothing are neither refused nor kept: the use has the gate of its name as it is, and
the group stands for nothing. -/
theorem shutters_left_open : ∃ material use group, shutters.build = .ok material ∧
    shutters.authored[2]? = some use ∧ use.invert = true ∧ use.gate = none ∧
    shutters.authored[3]? = some group ∧ group.invert = true ∧ group.gate = none ∧
    material.forest.nodes[2]?.bind material.forest.behaviorOf = some (.gate ⟨.battleStart, false⟩) ∧
    material.forest.nodes[3]?.bind material.forest.behaviorOf = none := by
  have behaviors : (shutters.build.toOption.map fun m =>
      (m.forest.nodes[2]?.bind m.forest.behaviorOf, m.forest.nodes[3]?.bind m.forest.behaviorOf)) =
        some (some (.gate ⟨.battleStart, false⟩), none) := by decide +kernel
  cases built : shutters.build with
  | error e =>
    rw [built] at behaviors
    cases behaviors
  | ok material =>
    rw [built] at behaviors
    obtain ⟨use, group⟩ := Prod.mk.inj (Option.some.inj behaviors)
    exact ⟨material, _, _, rfl, rfl, rfl, rfl, rfl, rfl, rfl, use, group⟩

end Masquerade
