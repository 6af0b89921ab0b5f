import Masquerade.Proofs.Logic.Complement
import Masquerade.Proofs.Logic.Stops

/-!
# Rolls

Random words are drawn in one place of a walk only: where it asks a gate with a chance, outside
descriptions. The word is drawn before the chance is looked at, so that neither its value nor the
gate's being inverted changes how many words are left (`Gate.judge_draws`). Behind a walk therefore lie
as many words as it has stopped at such gates (`Forest.run_draws`).
-/

namespace Masquerade

open RandomWords (Stream)

/-! ## Words -/

namespace RandomWords.Stream

/-- The stream after so many draws of one word. -/
def skip (s : Stream) : Nat → Stream
  | 0 => s
  | n + 1 => s.next.2.skip n

@[simp] theorem skip_zero (s : Stream) : s.skip 0 = s :=
  rfl

theorem skip_eq (s : Stream) (n : Nat) : s.skip n = { s with drawn := s.drawn + n } := by
  induction n generalizing s with
  | zero => rfl
  | succ n ih =>
    rw [skip, ih, next]
    simp only [Nat.add_comm n 1, Nat.add_assoc]

theorem skip_skip (s : Stream) (m n : Nat) : (s.skip m).skip n = s.skip (m + n) := by
  simp only [skip_eq, Nat.add_assoc]

/-- A roll draws one word. -/
theorem roll_draws (s : Stream) : s.roll.2 = s.skip 1 :=
  rfl

end RandomWords.Stream

/-! ## Gates -/

/-- Whether the condition is left to chance, with whatever probability. -/
def Condition.isChance : Condition → Bool
  | .chance _ => true
  | _ => false

/-- Whether a gate draws a word when it is asked. -/
def Gate.rolls (g : Gate) (m : Moment) : Bool :=
  m.phase ≠ .description && g.condition.isChance

/-- Only chance draws words. -/
theorem Gate.judge_silent {g : Gate} (h : g.condition.isChance = false) (counter : UInt32)
    (m : Moment) (rng : Stream) : (g.judge counter m rng).rng = rng := by
  obtain ⟨condition, invert⟩ := g
  rw [judge]
  by_cases asleep : m.phase = .description
  · rw [if_pos asleep]
    rfl
  rw [if_neg asleep]
  cases condition with
  | chance p => cases h
  | phase | battleStart | battleEnd => rfl
  | nthAction | nthAttack | firstActions | firstAttacks | everyActions =>
    exact answerNumbered_rng _ counter rng
  | waitEvery n =>
    dsimp only
    split
    · rfl
    · split
      · rfl
      · split <;> rfl
  | maxTriggers limit =>
    dsimp only
    split <;> rfl
  | afterHits target hits =>
    dsimp only
    split
    · rfl
    · cases m.hits <;> rfl

/-- A gate that rolls draws one word, and every other gate none. -/
theorem Gate.judge_draws (g : Gate) (counter : UInt32) (m : Moment) (rng : Stream) :
    (g.judge counter m rng).rng = rng.skip (g.rolls m).toNat := by
  cases chance : g.condition.isChance with
  | false =>
    rw [judge_silent chance, rolls, chance, Bool.and_false]
    rfl
  | true =>
    obtain ⟨p, hp⟩ : ∃ p, g.condition = .chance p := by
      unfold Condition.isChance at chance
      split at chance
      · next p hp => exact ⟨p, hp⟩
      · cases chance
    rw [rolls, chance, Bool.and_true, judge, hp]
    by_cases asleep : m.phase = .description
    · simp [asleep, standAside]
    · simp only [asleep, if_false, ne_eq, not_false_eq_true, decide_true]
      exact rng.roll_draws

namespace Forest

variable {F : Forest} {m : Moment}

/-! ## Walks -/

/-- Whether a walk draws a word where it stops: the node takes part in the moment, and its gate rolls.
-/
def rollsAt (F : Forest) (m : Moment) (id : Nat) : Bool :=
  match F.nodes[id]? with
  | none => false
  | some node =>
    node.side.admits m &&
      match F.behaviorOf node with
      | some (.gate gate) => gate.rolls m
      | _ => false

/-- How many of the stops of a run are at gates that roll. -/
def rolls (F : Forest) (m : Moment) (targets : Targets) (rng : Stream) : Nat :=
  (F.runStops m targets rng).countP (F.rollsAt m ·.id)

/-- How many of the stops of the runs of several forests are at gates that roll. -/
def rollsAll : List Forest → Moment → Targets → Stream → Nat
  | [], _, _, _ => 0
  | F :: rest, m, targets, rng =>
    F.rolls m targets rng + rollsAll rest m (F.run m targets rng).2.1 (F.run m targets rng).2.2

/-- Every step of a walk draws a word where it rolls, and none elsewhere. -/
theorem stepsAs_draws (F : Forest) (m : Moment) :
    F.StepsAs m (·.rng) fun id rng => rng.skip (F.rollsAt m id).toNat where
  admitted id node hn hside s := by
    rw [rollsAt, perform, hn]
    cases hb : F.behaviorOf node with
    | none => simp [hb]
    | some behavior =>
      cases behavior with
      | gate gate =>
        simp only [hb, hside, Bool.true_and]
        exact gate.judge_draws _ m s.rng
      | effect effect => simp [hb]
  excluded id node hn hside rng := by
    simp [rollsAt, hn, hside]

theorem foldl_skip {α : Type} (p : α → Bool) (xs : List α) (rng : Stream) :
    xs.foldl (fun rng x => rng.skip (p x).toNat) rng = rng.skip (xs.countP p) := by
  induction xs generalizing rng with
  | nil => rfl
  | cons x rest ih =>
    rw [List.foldl_cons, ih, Stream.skip_skip, List.countP_cons, Nat.add_comm]
    cases p x <;> rfl

theorem run_draws (F : Forest) (m : Moment) (targets : Targets) (rng : Stream) :
    (F.run m targets rng).2.2 = rng.skip (F.rolls m targets rng) :=
  ((F.stepsAs_draws m).run targets rng).trans (foldl_skip _ _ rng)

theorem runAll_draws (forests : List Forest) (m : Moment) (targets : Targets) (rng : Stream) :
    (runAll forests m targets rng).2.2 = rng.skip (rollsAll forests m targets rng) := by
  induction forests generalizing targets rng with
  | nil => rfl
  | cons F rest ih =>
    have first := F.run_draws m targets rng
    have later := ih (F.run m targets rng).2.1 (F.run m targets rng).2.2
    rw [rollsAll, ← Stream.skip_skip, ← first]
    exact later

end Forest

end Masquerade
