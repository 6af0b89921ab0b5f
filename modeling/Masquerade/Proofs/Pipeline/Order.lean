import Masquerade.Pipeline

/-!
# The order of a pipeline

Steps and finalizing steps come to a pipeline by calls in any order (`Pipeline.Edit`). The finalizing step
is the one that was installed last, and no listed step has its name, whichever of the two came first
(`Pipeline.Apart`). Which steps are listed in the end is told from the calls alone (`Pipeline.lasting`). An
attack meets every listed step once, in the order of their insertion, and after them the finalizing step
(`Pipeline.finalizer_last`).
-/

namespace Masquerade

namespace Pipeline

variable {σ : Type}

/-- A call that changes a pipeline. -/
inductive Edit (σ : Type) where
  | addStep (step : Step σ)
  | setFinalizer (step : Step σ)

/-- The pipeline after a call. A step that is not to be added leaves it as it was. -/
def edit (p : Pipeline σ) : Edit σ → Pipeline σ
  | .addStep step => (p.addStep? step).getD p
  | .setFinalizer step => p.setFinalizer step

/-- The pipeline after calls one after the other. -/
def assemble (p : Pipeline σ) (edits : List (Edit σ)) : Pipeline σ := edits.foldl edit p

/-- The steps that the calls ask to be added, in their order. -/
def added (edits : List (Edit σ)) : List (Step σ) :=
  edits.filterMap fun
    | .addStep step => some step
    | .setFinalizer _ => none

/-- The finalizing steps that the calls install, in their order. -/
def finalizers (edits : List (Edit σ)) : List (Step σ) :=
  edits.filterMap fun
    | .addStep _ => none
    | .setFinalizer step => some step

section

variable (p : Pipeline σ) (step : Step σ) (rest : List (Edit σ))

@[simp] theorem assemble_nil : p.assemble [] = p := rfl

@[simp] theorem assemble_cons (e : Edit σ) : p.assemble (e :: rest) = (p.edit e).assemble rest := rfl

@[simp] theorem added_addStep : added (.addStep step :: rest) = step :: added rest := rfl

@[simp] theorem added_setFinalizer : added (.setFinalizer step :: rest) = added rest := rfl

@[simp] theorem finalizers_addStep : finalizers (.addStep step :: rest) = finalizers rest := rfl

@[simp] theorem finalizers_setFinalizer :
    finalizers (.setFinalizer step :: rest) = step :: finalizers rest := rfl

end

/-- What a call to add a step does. -/
theorem edit_addStep (p : Pipeline σ) (step : Step σ) :
    p.edit (.addStep step) =
      if p.finalizerName = some step.name then p else { p with steps := p.steps ++ [step] } := by
  rw [edit, addStep?]
  split <;> rfl

/-! ## Names -/

/-- No listed step has the name of the finalizing step. -/
def Apart (p : Pipeline σ) : Prop := ∀ step ∈ p.steps, p.finalizerName ≠ some step.name

theorem Apart.edit {p : Pipeline σ} (h : p.Apart) (e : Edit σ) : (p.edit e).Apart := by
  cases e with
  | addStep new =>
    rw [edit_addStep]
    split
    · exact h
    · next other =>
      intro step listed
      rcases List.mem_append.1 listed with old | last
      · exact h step old
      · obtain rfl := List.mem_singleton.1 last
        exact other
  | setFinalizer final =>
    intro step listed same
    have kept := (List.mem_filter.1 listed).2
    rw [bne_iff_ne] at kept
    exact kept (Option.some.inj same).symm

theorem Apart.assemble {p : Pipeline σ} (h : p.Apart) (edits : List (Edit σ)) :
    (p.assemble edits).Apart := by
  induction edits generalizing p with
  | nil => exact h
  | cons e rest ih => exact ih (h.edit e)

/-! ## The steps that are left -/

/-- The steps of the calls that are listed after all of them. A step is left out if the finalizing step has
its name when it is to be added, or if a later one has it. -/
def lasting (current : Option String) : List (Edit σ) → List (Step σ)
  | [] => []
  | .addStep step :: rest =>
    if current = some step.name ∨ step.name ∈ (finalizers rest).map (·.name) then
      lasting current rest
    else
      step :: lasting current rest
  | .setFinalizer step :: rest => lasting (some step.name) rest

/-- Listed in the end are the steps of the beginning whose names no finalizing step has got, and after them
the steps of the calls that are left. -/
theorem steps_assemble (p : Pipeline σ) (edits : List (Edit σ)) :
    (p.assemble edits).steps =
      p.steps.filter (fun step => step.name ∉ (finalizers edits).map (·.name)) ++
        lasting p.finalizerName edits := by
  induction edits generalizing p with
  | nil =>
    rw [lasting, List.append_nil, assemble_nil]
    exact (List.filter_eq_self.2 fun _ _ => decide_eq_true List.not_mem_nil).symm
  | cons e rest ih =>
    rw [assemble_cons, ih]
    cases e with
    | addStep step =>
      rw [edit_addStep, lasting, finalizers_addStep]
      by_cases current : p.finalizerName = some step.name
      · rw [if_pos current, if_pos (.inl current)]
      · rw [if_neg current, List.filter_append, List.append_assoc]
        congr 1
        by_cases later : step.name ∈ (finalizers rest).map (·.name)
        · rw [if_pos (.inr later), List.filter_cons_of_neg (by simpa using later)]
          rfl
        · rw [if_neg fun out => out.elim current later, List.filter_cons_of_pos (by simpa using later)]
          rfl
    | setFinalizer step =>
      rw [lasting, finalizers_setFinalizer, List.map_cons]
      congr 1
      show (p.steps.filter (·.name != step.name)).filter _ = _
      rw [List.filter_filter]
      refine List.filter_congr fun listed _ => ?_
      rw [Bool.and_comm, Bool.eq_iff_iff]
      simp

/-- They are listed in the order in which they were to be added. -/
theorem lasting_sublist (current : Option String) (edits : List (Edit σ)) :
    (lasting current edits).Sublist (added edits) := by
  induction edits generalizing current with
  | nil => exact .slnil
  | cons e rest ih =>
    cases e with
    | addStep step =>
      rw [lasting, added_addStep]
      split
      · exact (ih current).cons step
      · exact (ih current).cons_cons step
    | setFinalizer step => exact ih (some step.name)

/-- Where all finalizing steps have one name, the steps of other names are left, and only they. It does not
matter when the finalizing step was installed, as long as it was before or comes later. -/
theorem lasting_of_one_name {f : String} (edits : List (Edit σ))
    (one : ∀ step ∈ finalizers edits, step.name = f) {current : Option String}
    (installed : current = some f ∨ current = none ∧ finalizers edits ≠ []) :
    lasting current edits = (added edits).filter (·.name ≠ f) := by
  induction edits generalizing current with
  | nil => rfl
  | cons e rest ih =>
    cases e with
    | addStep step =>
      rw [finalizers_addStep] at one installed
      rw [lasting, added_addStep, List.filter_cons, ih one installed]
      have out : current = some step.name ∨ step.name ∈ (finalizers rest).map (·.name) ↔
          step.name = f := by
        constructor
        · rintro (now | later)
          · obtain rfl | ⟨rfl, -⟩ := installed
            · exact (Option.some.inj now).symm
            · cases now
          · obtain ⟨final, listed, same⟩ := List.mem_map.1 later
            rw [← same, one final listed]
        · rintro rfl
          refine installed.imp id fun later => ?_
          obtain ⟨final, listed⟩ := List.exists_mem_of_ne_nil _ later.2
          exact List.mem_map.2 ⟨final, listed, one final listed⟩
      by_cases named : step.name = f
      · rw [if_pos (out.2 named), if_neg (by simp [named])]
      · rw [if_neg (mt out.1 named), if_pos (by simp [named])]
    | setFinalizer step =>
      rw [finalizers_setFinalizer, List.forall_mem_cons] at one
      rw [lasting, added_setFinalizer]
      exact ih one.2 (.inl (congrArg some one.1))

theorem finalizer_assemble (p : Pipeline σ) (edits : List (Edit σ)) :
    (p.assemble edits).finalizer = ((finalizers edits).getLast?).or p.finalizer := by
  induction edits generalizing p with
  | nil => rfl
  | cons e rest ih =>
    rw [assemble_cons, ih]
    cases e with
    | addStep step =>
      rw [edit_addStep, finalizers_addStep]
      split <;> rfl
    | setFinalizer step =>
      rw [finalizers_setFinalizer, List.getLast?_cons]
      cases (finalizers rest).getLast? <;> rfl

/-! ## What runs -/

end Pipeline

/-- The same with notes kept in the memory. -/
def Strike.noted {σ : Type} (s : Strike σ) (notes : List (Step σ)) : Strike (σ × List (Step σ)) :=
  ⟨s.attack, s.rng, (s.memory, notes)⟩

/-- The same step, which notes down when it runs. -/
def Step.noting {σ : Type} (step : Step σ) : Step (σ × List (Step σ)) where
  name := step.name
  run clash strike :=
    let before : Strike σ := ⟨strike.attack, strike.rng, strike.memory.1⟩
    (step.run clash before).noted (strike.memory.2 ++ [step])

namespace Pipeline

variable {σ : Type}

/-- The same call with a step that notes down when it runs. -/
def Edit.noting : Edit σ → Edit (σ × List (Step σ))
  | .addStep step => .addStep step.noting
  | .setFinalizer step => .setFinalizer step.noting

/-- The same pipeline with steps that note down when they run. -/
def noting (p : Pipeline σ) : Pipeline (σ × List (Step σ)) :=
  ⟨p.steps.map Step.noting, p.finalizer.map Step.noting⟩

theorem finalizerName_noting (p : Pipeline σ) : p.noting.finalizerName = p.finalizerName := by
  rw [finalizerName, finalizerName, noting, Option.map_map]
  rfl

/-- Names are all that the calls look at, and they are the same. -/
theorem edit_noting (p : Pipeline σ) (e : Edit σ) : p.noting.edit e.noting = (p.edit e).noting := by
  cases e with
  | addStep step =>
    rw [Edit.noting, edit_addStep, edit_addStep, finalizerName_noting]
    show (if p.finalizerName = some step.name then _ else _) = _
    split
    · rfl
    · simp [noting]
  | setFinalizer step =>
    simp only [Edit.noting, edit, setFinalizer, noting, List.filter_map, Option.map_some]
    rfl

theorem assemble_noting (p : Pipeline σ) (edits : List (Edit σ)) :
    p.noting.assemble (edits.map Edit.noting) = (p.assemble edits).noting := by
  induction edits generalizing p with
  | nil => rfl
  | cons e rest ih => rw [List.map_cons, assemble_cons, assemble_cons, edit_noting, ih]

theorem foldl_noting (steps : List (Step σ)) (clash : Clash) (strike : Strike σ)
    (notes : List (Step σ)) :
    (steps.map Step.noting).foldl (fun s step => step.run clash s) (strike.noted notes) =
      (steps.foldl (fun s step => step.run clash s) strike).noted (notes ++ steps) := by
  induction steps generalizing strike notes with
  | nil => rw [List.append_nil]; rfl
  | cons step rest ih =>
    rw [List.map_cons, List.foldl_cons, List.foldl_cons, List.append_cons notes step rest]
    exact ih (step.run clash strike) (notes ++ [step])

/-- Notes change nothing else, and they say that every step has run once, in the order of the list, and the
finalizing step after them. -/
theorem process_noting (p : Pipeline σ) (clash : Clash) (strike : Strike σ) :
    p.noting.process clash (strike.noted []) =
      (p.process clash strike).noted (p.steps ++ p.finalizer.toList) := by
  have worked := foldl_noting p.steps clash strike []
  rw [List.nil_append] at worked
  rw [process, process, noting]
  dsimp only
  rw [worked]
  cases p.finalizer with
  | none => rw [Option.toList_none, List.append_nil]; rfl
  | some final => rfl

/-- The finalizing step is always the last. After any calls to a new pipeline no listed step has its name,
the listed steps stand in the order in which they were added, and the finalizing step is the one that was
installed last. An attack meets the listed steps, each once and in this order, and then the finalizing step
once. If all finalizing steps have one name, the steps of any other name are listed and only they, wherever
among the calls the finalizing steps were installed. -/
theorem finalizer_last (edits : List (Edit σ)) :
    let p := empty.assemble edits
    (∀ step ∈ p.steps, p.finalizerName ≠ some step.name) ∧
      p.steps.Sublist (added edits) ∧
      p.finalizer = (finalizers edits).getLast? ∧
      (∀ clash strike,
        (empty.assemble (edits.map Edit.noting)).process clash (strike.noted []) =
          (p.process clash strike).noted (p.steps ++ p.finalizer.toList)) ∧
      ∀ f, finalizers edits ≠ [] → (∀ step ∈ finalizers edits, step.name = f) →
        p.steps = (added edits).filter (·.name ≠ f) := by
  intro p
  have steps : p.steps = lasting none edits := steps_assemble empty edits
  refine ⟨?_, ?_, ?_, fun clash strike => ?_, fun f some one => ?_⟩
  · have apart : (empty : Pipeline σ).Apart := fun _ listed => absurd listed List.not_mem_nil
    exact apart.assemble edits
  · rw [steps]
    exact lasting_sublist none edits
  · exact (finalizer_assemble empty edits).trans (Option.or_none ..)
  · rw [← process_noting, ← assemble_noting]
    rfl
  · rw [steps]
    exact lasting_of_one_name edits one (.inr ⟨rfl, some⟩)

end Pipeline

/-- A step that doubles the attack. -/
def doubling (name : String) : Step Unit where
  name := name
  run _ strike := { strike with attack := strike.attack.add .rawAttack strike.attack.rawAttack }

/-- Of two finalizing steps of one name the later one stays, and steps of this name are listed neither where
they were added before nor where they were to be added between or behind. -/
theorem focus_finalizes :
    let final : Step Unit := FinalDamage.step {} Unit
    let edits : List (Pipeline.Edit Unit) := [.addStep (doubling "final_damage"),
      .addStep (doubling "sharpen"), .setFinalizer (doubling "final_damage"),
      .addStep (doubling "final_damage"), .addStep (doubling "focus"), .setFinalizer final,
      .addStep (doubling "sharpen")]
    let p := Pipeline.empty.assemble edits
    Pipeline.finalizers edits ≠ [] ∧
      (∀ step ∈ Pipeline.finalizers edits, step.name = "final_damage") ∧
      p.stepNames = ["sharpen", "focus", "sharpen"] ∧ p.finalizer = some final ∧
      doubling "focus" ∈ p.steps ∧ p.finalizerName ≠ some "focus" := by
  intro final edits p
  have some : Pipeline.finalizers edits ≠ [] := List.cons_ne_nil _ _
  have one : ∀ step ∈ Pipeline.finalizers edits, step.name = "final_damage" := by
    intro step listed
    rcases List.mem_cons.1 listed with rfl | listed
    · rfl
    · obtain rfl := List.mem_singleton.1 listed
      rfl
  obtain ⟨apart, -, last, -, same⟩ := Pipeline.finalizer_last edits
  have steps := same "final_damage" some one
  have names : p.stepNames = ["sharpen", "focus", "sharpen"] := by
    rw [Pipeline.stepNames, steps]
    decide
  have listed : doubling "focus" ∈ p.steps := by
    rw [steps]
    exact List.mem_filter.2 ⟨List.mem_of_getElem? (i := 3) rfl, by decide⟩
  exact ⟨some, one, names, last, listed, apart _ listed⟩

end Masquerade
