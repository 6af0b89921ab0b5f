import Masquerade.Attack
import Masquerade.RandomWords.Stream
import Masquerade.Ruleset
import Masquerade.Text.Quoted

/-!
# Attack pipelines

Between the effects of an attack and its damage stands a pipeline: a list of steps that run in the
order of their insertion, and one finalizing step that is held apart, so that nothing added later
can run after it. A step is a name and a function; steps may remember things from attack to attack
in a shared memory `σ`. The built-in finalizing step is `FinalDamage`, which takes off the defense
and rolls for a critical hit.
-/

namespace Masquerade

open RandomWords (Stream)

/-- The combatants that a step sees. -/
structure Clash where
  attacker : Combatant
  defender : Option Combatant

/-- The things a step can change: the attack, the random words and the memory of the steps. -/
structure Strike (σ : Type) where
  attack : Attack
  rng : Stream
  memory : σ

/-- One stage of an attack's way to its damage. -/
structure Step (σ : Type) where
  name : String
  run : Clash → Strike σ → Strike σ

/-- Steps in their order, and the finalizing step. -/
structure Pipeline (σ : Type) where
  steps : List (Step σ)
  finalizer : Option (Step σ)

namespace Pipeline

variable {σ : Type}

/-- The pipeline without any step. -/
def empty : Pipeline σ := ⟨[], none⟩

/-- The name of the finalizing step. -/
def finalizerName (p : Pipeline σ) : Option String := p.finalizer.map (·.name)

/-- The names of the steps in their order. -/
def stepNames (p : Pipeline σ) : List String := p.steps.map (·.name)

/-- The pipeline with a step added at the end, or nothing if the step has the finalizer's name. -/
def addStep? (p : Pipeline σ) (step : Step σ) : Option (Pipeline σ) :=
  if p.finalizerName = some step.name then none else some { p with steps := p.steps ++ [step] }

/-- Installs the finalizing step and removes the steps of its name from the list. -/
def setFinalizer (p : Pipeline σ) (step : Step σ) : Pipeline σ where
  steps := p.steps.filter (·.name != step.name)
  finalizer := some step

/-- Installs the finalizing step unless there is one. -/
def ensureFinalizer (p : Pipeline σ) (step : Step σ) : Pipeline σ :=
  if p.finalizer.isSome then p else p.setFinalizer step

/-- Runs every step in order and then the finalizing step. -/
def process (p : Pipeline σ) (clash : Clash) (strike : Strike σ) : Strike σ :=
  let worked := p.steps.foldl (fun s step => step.run clash s) strike
  match p.finalizer with
  | some step => step.run clash worked
  | none => worked

/-- The names of the steps and of the finalizing step in one line. -/
def summary (p : Pipeline σ) : String :=
  let steps := Text.quotedList p.stepNames
  let finalizer :=
    match p.finalizerName with
    | some name => "Some(" ++ Text.quoted name ++ ")"
    | none => "None"
  "AttackPipeline \x7b steps: " ++ steps ++ ", finalizer: " ++ finalizer ++ " \x7d"

end Pipeline

/-! ## Defense and critical hits -/

/-- The rule of the built-in finalizing step, with its two parts switched on or off. -/
structure FinalDamage where
  defenseReduction : Bool := true
  critEnabled : Bool := true
  deriving DecidableEq

namespace FinalDamage

/-- The name of the built-in finalizing step. -/
def stepName : String := "final_damage"

/-- The rule that a ruleset asks for. -/
def ofRuleset (r : Ruleset) : FinalDamage := ⟨r.defenseReduction, r.critEnabled⟩

/-- The defense that an attack runs into: the part that it does not ignore, less its flat
penetration, and never below zero. -/
def effectiveDefense (a : Attack) (defender : Combatant) : Float32 :=
  (defender.defense * (1 - a.penetrationPercent) - a.penetrationFlat).atLeast 0

/-- The damage before the roll for a critical hit. -/
def reduced (rule : FinalDamage) (a : Attack) (defender : Combatant) : Float32 :=
  let remaining :=
    if rule.defenseReduction then a.rawAttack - effectiveDefense a defender else a.rawAttack
  remaining.atLeast 0

/-- Settles the damage of an attack. Without a defender it is the raw attack and nothing is rolled;
otherwise it is the reduced damage, multiplied if a critical hit is rolled. -/
def settle (rule : FinalDamage) (a : Attack) (defender : Option Combatant) (rng : Stream) :
    Attack × Stream :=
  match defender with
  | none => ({ a with isCrit := false, finalDamage := some (a.rawAttack.atLeast 0) }, rng)
  | some defender =>
    let damage := rule.reduced a defender
    if rule.critEnabled then
      let (roll, rng) := rng.roll
      if roll < a.critChance.within 0 1 then
        let damage := damage * a.critMultiplier.atLeast 1
        ({ a with isCrit := true, finalDamage := some damage }, rng)
      else
        ({ a with isCrit := false, finalDamage := some damage }, rng)
    else
      ({ a with isCrit := false, finalDamage := some damage }, rng)

/-- The rule as a step. -/
def step (rule : FinalDamage) (σ : Type) : Step σ where
  name := stepName
  run clash strike :=
    let (attack, rng) := rule.settle strike.attack clash.defender strike.rng
    { strike with attack := attack, rng := rng }

end FinalDamage

end Masquerade
