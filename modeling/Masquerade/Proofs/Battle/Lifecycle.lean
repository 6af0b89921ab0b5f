import Masquerade.Proofs.Battle.Outcome
import Masquerade.Proofs.Battle.Restart

/-!
# The life of a battle

A battle is idle, then it is fought, and then it has ended, until it is started again. What it has to show
goes with its stage: nothing while it is idle, combatants and a finalizing step on both sides while it is
fought, and an outcome at its end only (`Course.calls_lifecycle`). A start that is refused, and a tick or a
stop of a battle that is not being fought, change nothing.
-/

namespace Masquerade

variable {σ : Type}

/-! ## Finalizing steps -/

namespace Pipeline

theorem isSome_finalizer_ensureFinalizer (p : Pipeline σ) (step : Step σ) :
    (p.ensureFinalizer step).finalizer.isSome = true := by
  rw [ensureFinalizer]
  split
  · next present => exact present
  · rfl

theorem finalizer_of_addStep? {p q : Pipeline σ} {step : Step σ} (h : p.addStep? step = some q) :
    q.finalizer = p.finalizer := by
  rw [addStep?] at h
  split at h
  · cases h
  · cases h
    rfl

end Pipeline

namespace Battle

variable {b : Battle σ}

/-- Both pipelines have a finalizing step. -/
def Finalized (b : Battle σ) : Prop :=
  ∀ side, (b.arena.pipelines.get side).finalizer.isSome = true

theorem Finalized.addStep (h : b.Finalized) (side : Side) (step : Step σ) :
    ((b.addStep? side step).getD b).Finalized := by
  rw [addStep?]
  cases added : (b.arena.pipelines.get side).addStep? step with
  | none => exact h
  | some p =>
    have own : p.finalizer.isSome = true := by
      rw [Pipeline.finalizer_of_addStep? added]
      exact h side
    intro other
    have others := h other
    cases side <;> cases other <;> assumption

theorem Finalized.setFinalizer (h : b.Finalized) (side : Side) (step : Step σ) :
    (b.setFinalizer side step).Finalized := by
  intro other
  have others := h other
  cases side <;> cases other
  · rfl
  · exact others
  · exact others
  · rfl

/-- Both pipelines of a battle that is being fought have a finalizing step. -/
theorem finalized_call (h : b.isFighting = true → b.Finalized) (x : Call σ)
    (fighting : (b.call x).2.isFighting = true) : (b.call x).2.Finalized := by
  cases x with
  | start setup =>
    cases hs : b.start setup with
    | error e =>
      rw [call, hs] at fighting ⊢
      exact h fighting
    | ok out =>
      rw [call, hs]
      rw [start] at hs
      split at hs
      · cases hs
      · cases hs
      · -- an accepted start fills in the finalizing steps that are missing
        cases hs
        intro side
        cases side <;> exact Pipeline.isSome_finalizer_ensureFinalizer _ _
  | tick dt =>
    change (b.tick dt).2.isFighting = true at fighting
    show (b.tick dt).2.Finalized
    cases before : b.isFighting with
    | true =>
      rw [Finalized, b.tick_arena dt]
      exact h before
    | false =>
      rw [tick_of_not_isFighting before dt] at fighting ⊢
      exact h fighting
  | stop => exact absurd fighting (Bool.eq_false_iff.1 b.stop_isFighting)
  | addStep side step =>
    have before : b.isFighting = true := by
      rw [isFighting, ← b.addStep?_getD_stage side step]
      exact fighting
    exact (h before).addStep side step
  | setFinalizer side step => exact (h fighting).setFinalizer side step

/-! ## Calls without effect -/

theorem start_eq_error_iff {setup : BattleSetup} {e : GameError} :
    b.start setup = .error e ↔
      b.isFighting = true ∧ e = .battleInProgress ∨
        b.isFighting = false ∧ setup.enemy = none ∧ e = .missingEnemy := by
  cases hb : b.stage <;> cases he : setup.enemy <;> simp [start, isFighting, hb, he, eq_comm]

theorem stop_of_not_isFighting (idle : b.isFighting = false) : b.stop = b := by
  cases hb : b.stage with
  | fighting f => simp [isFighting, hb] at idle
  | idle | ended => simp only [stop, hb]

end Battle

namespace Course

variable {c : Course σ}

/-- A call that hands the battle back without an event changes nothing of a course. -/
theorem call_of_still {x : Call σ} (refused : c.battle.starts x = false)
    (still : c.battle.call x = ([], c.battle)) : c.call x = c := by
  rw [call, still, refused]
  simp

theorem call_start_of_error {setup : BattleSetup} {e : GameError}
    (refused : c.battle.start setup = .error e) : c.call (.start setup) = c := by
  have refused : c.battle.starts (.start setup) = false := by
    rw [Battle.starts, refused]
    rfl
  exact call_of_still refused (Battle.call_of_refused refused)

/-- After any calls, what a battle has to show goes with its stage, and calls that do not fit the stage
change nothing. A battle that is neither being fought nor finished has no combatants, nothing counted and
no outcome. One that is being fought has combatants, no outcome and a finalizing step in both pipelines. An
outcome is there at the end only, and is a victory exactly if the player stands and the enemy has fallen. A
start is refused exactly if the battle is being fought or there is no enemy; then it leaves everything as it
was, and so does a tick or a stop of a battle that is not being fought. -/
theorem calls_lifecycle (ruleset : Ruleset) (memory : σ) (calls : List (Call σ)) :
    let c := (new ruleset memory).calls calls
    let b := c.battle
    (b.isFighting = false → b.isFinished = false → b.report = ⟨none, none, {}, 0⟩) ∧
      (b.isFighting = true →
        b.report.combatants.isSome = true ∧ b.report.outcome = none ∧
          ∀ side, (b.arena.pipelines.get side).finalizer.isSome = true) ∧
      (b.report.outcome.isSome = true → b.isFinished = true) ∧
      (∀ outcome, b.report.outcome = some outcome → ∃ cs, b.report.combatants = some cs ∧
        (outcome = .victory ↔ cs.player.isDead = false ∧ cs.enemy.isDead = true)) ∧
      (∀ setup e, b.start setup = .error e ↔
        b.isFighting = true ∧ e = .battleInProgress ∨
          b.isFighting = false ∧ setup.enemy = none ∧ e = .missingEnemy) ∧
      (∀ setup e, b.start setup = .error e → c.call (.start setup) = c) ∧
      (b.isFighting = false → (∀ dt, c.call (.tick dt) = c) ∧ c.call .stop = c) := by
  intro c b
  have idle : (new ruleset memory).battle.isFighting = false := rfl
  have finalized : b.isFighting = true → b.Finalized :=
    calls_induction (P := fun c => c.battle.isFighting = true → c.battle.Finalized)
      (fun _ x h => Battle.finalized_call h x) (fun fighting => absurd fighting (Bool.eq_false_iff.1 idle)) calls
  refine ⟨fun idle unfinished => ?_, fun fighting => ?_, fun decided => ?_, fun outcome decided => ?_,
    fun setup e => Battle.start_eq_error_iff, fun setup e => call_start_of_error,
    fun idle => ⟨fun dt => ?_, ?_⟩⟩
  · cases hb : b.stage with
    | idle rng memory => simp [Battle.report, Battle.counters, Battle.elapsed, hb, Stage.outcome?, Stage.fight?]
    | fighting f => simp [Battle.isFighting, hb] at idle
    | ended f outcome => simp [Battle.isFinished, hb] at unfinished
  · obtain ⟨f, hf⟩ := Battle.exists_fight fighting
    refine ⟨?_, ?_, finalized fighting⟩
    · simp [Battle.report, hf, Stage.fight?]
    · simp [Battle.report, hf, Stage.outcome?]
  · cases hb : b.stage with
    | idle | fighting => simp [Battle.report, hb, Stage.outcome?] at decided
    | ended f outcome => simp [Battle.isFinished, hb]
  · -- the tick that brought the outcome left it to the combatants of its end
    obtain ⟨-, -, -, f, -, -, stage, rfl⟩ := exists_deciding_tick rfl decided
    refine ⟨f.closed.combatants, ?_, f.closed.outcome_eq_victory_iff⟩
    change b.stage = _ at stage
    simp [Battle.report, stage, Stage.fight?]
  · exact call_of_still rfl (Battle.tick_of_not_isFighting idle dt)
  · refine call_of_still rfl ?_
    rw [Battle.call, Battle.stop_of_not_isFighting idle]

end Course

end Masquerade
