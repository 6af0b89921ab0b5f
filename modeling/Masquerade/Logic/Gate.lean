import Masquerade.Logic.Moment
import Masquerade.RandomWords.Stream

/-!
# Gates

A gate decides whether the part of the logic below it takes part in one moment. Most conditions look
at the moment alone. Two of them count their own calls: `waitEvery` lets every n-th call of a battle
through and `maxTriggers` the first few. The counter belongs to the place where the gate stands and
not to the gate, so a gate that stands in several places counts separately in each. `chance` draws
one random word per call.
-/

namespace Masquerade

open RandomWords (Stream)

/-- The condition of a gate. -/
inductive Condition where
  /-- Only in one phase. -/
  | phase (phase : Phase)
  /-- Only in the n-th attack of the battle. -/
  | nthAction (n : UInt32)
  /-- Only in the attacker's own n-th attack. -/
  | nthAttack (n : UInt32)
  | firstActions (n : UInt32)
  | firstAttacks (n : UInt32)
  /-- Only in attacks whose number is a multiple of n. -/
  | everyActions (n : UInt32)
  /-- On every n-th call. -/
  | waitEvery (n : UInt32)
  /-- At most so many times in a battle. -/
  | maxTriggers (limit : UInt32)
  /-- With a probability, rolled on every call. -/
  | chance (p : Float32)
  /-- Once a side has taken so many hits. -/
  | afterHits (target : Side) (hits : UInt32)
  | battleStart
  | battleEnd
  deriving DecidableEq

/-- A condition, possibly turned into its opposite. -/
structure Gate where
  condition : Condition
  invert : Bool := false
  deriving DecidableEq

/-- The answer of a gate: whether the part below it is skipped, the counter afterwards and the random
words that are left. -/
structure Verdict where
  skips : Bool
  counter : UInt32
  rng : Stream
  deriving DecidableEq

/-- The hits on `target` that a gate reckons with: the hits landed, and during an attack on the target
also the hit in flight. -/
def Moment.hitsOn (m : Moment) (hits : HitCounts) (target : Side) : UInt32 :=
  let received := hits.receivedBy target
  if m.defender = some target ∧ received < m.attackNumber then m.attackNumber else received

namespace Gate

/-- The answer for a condition that holds or fails and leaves the counter alone. -/
def answer (g : Gate) (holds : Bool) (counter : UInt32) (rng : Stream) : Verdict :=
  ⟨holds == g.invert, counter, rng⟩

/-- The answer of a gate that has nothing to judge: it stands aside, inverted or not. -/
def standAside (counter : UInt32) (rng : Stream) : Verdict :=
  ⟨false, counter, rng⟩

/-- The answer for a condition on the number of an attack. Outside attacks, and when the gate names
the number zero, there is nothing to judge. -/
def answerNumbered (g : Gate) (number n : UInt32) (holds : Bool) (counter : UInt32)
    (rng : Stream) : Verdict :=
  if number = 0 ∨ n = 0 then standAside counter rng else g.answer holds counter rng

/-- Asks the gate at one moment. In the description phase nothing is skipped. The gates that count
start their count anew at the start of a battle, and skip there. -/
def judge (g : Gate) (counter : UInt32) (m : Moment) (rng : Stream) : Verdict :=
  if m.phase = .description then
    standAside counter rng
  else
    match g.condition with
    | .phase phase => g.answer (m.phase = phase) counter rng
    | .nthAction n => g.answerNumbered m.actionNumber n (m.actionNumber = n) counter rng
    | .nthAttack n => g.answerNumbered m.attackNumber n (m.attackNumber = n) counter rng
    | .firstActions n => g.answerNumbered m.actionNumber n (m.actionNumber ≤ n) counter rng
    | .firstAttacks n => g.answerNumbered m.attackNumber n (m.attackNumber ≤ n) counter rng
    | .everyActions n => g.answerNumbered m.actionNumber n (m.actionNumber % n = 0) counter rng
    | .waitEvery n =>
      if m.phase = .battleStart then
        ⟨true, 0, rng⟩
      else if n = 0 then
        standAside counter rng
      else if n ≤ counter + 1 then
        g.answer true 0 rng
      else
        g.answer false (counter + 1) rng
    | .maxTriggers limit =>
      if m.phase = .battleStart then
        ⟨true, 0, rng⟩
      else
        -- the count is of passes, so an inverted gate counts what it lets through
        let passes := decide (counter < limit) != g.invert
        ⟨!passes, if passes then counter + 1 else counter, rng⟩
    | .chance p =>
      let (roll, rng) := rng.roll
      g.answer (roll < p.within 0 1) counter rng
    | .afterHits target hits =>
      if hits = 0 then
        standAside counter rng
      else
        match m.hits with
        | none => ⟨true, counter, rng⟩
        | some landed => g.answer (hits ≤ m.hitsOn landed target) counter rng
    | .battleStart => g.answer (m.phase = .battleStart) counter rng
    | .battleEnd => g.answer (m.phase = .battleEnd) counter rng

/-- The condition in words. -/
def conditionText : Condition → String
  | .phase phase => s!"During {phase.label}"
  | .nthAction n => s!"On action #{n.toNat}"
  | .nthAttack n => s!"On own attack #{n.toNat}"
  | .firstActions n => s!"During the first {n.toNat} actions"
  | .firstAttacks n => s!"During the first {n.toNat} own attacks"
  | .everyActions n => s!"Every {n.toNat} actions"
  | .waitEvery n => if n = 1 then "Every time" else s!"Once every {n.toNat} times"
  | .maxTriggers limit => s!"At most {limit.toNat} times per battle"
  | .chance p =>
    let share := Decimal.fixed 0 (p.within 0 1 * 100)
    s!"With {share}% chance"
  | .afterHits target hits => s!"Once the {target.label} has taken {hits.toNat} hits"
  | .battleStart => "At battle start"
  | .battleEnd => "At battle end"

/-- The gate in words. -/
def describe (g : Gate) : String :=
  if g.invert then "Unless: " ++ conditionText g.condition else conditionText g.condition

end Gate

end Masquerade
