import Masquerade.Proofs.Battle.Domains
import Masquerade.Proofs.Battle.Outcome
import Masquerade.Proofs.Single.Sums

/-!
# Gauges and clock

With tuning numbers that a battle can be fought with, gauges, ends of pauses and the battle clock are
numbers that are not negative (`Fight.Steady`). Speeds are in their domain and time steps are finite and
not negative, so that gauges and clock only fill up, to infinity if need be; and an attack takes no more
from a gauge than is in it. So the clock does not go back within a fight, and what a display shows of a
gauge lies between zero and one (`Course.calls_steady`).
-/

namespace Masquerade

open Float32 (isNaN_of_le isNaN_zero le_add_of_nonneg le_atLeast le_iff_not_lt le_of_lt le_refl le_trans)
open RandomWords (Stream)

variable {σ : Type} {arena : Arena σ} {r : Ruleset}

/-! ## The numbers that fill gauges and clock -/

theorem Ruleset.speedThreshold_pos (r : Ruleset) :
    0 < r.speedThreshold ∧ r.speedThreshold.isFinite = true := by
  refine UInt32.toSingle_of_pos ?_
  show 0 < if r.arenaSpeedThreshold ≤ 1 then 1 else r.arenaSpeedThreshold
  split
  · decide
  · next above => exact UInt32.lt_trans (by decide) (UInt32.not_le.1 above)

theorem Ruleset.attackInterval_of_flaw? (valid : r.flaw? = none) :
    0 ≤ r.attackIntervalSecs := by
  rw [Ruleset.flaw?] at valid
  split at valid
  · cases valid
  · split at valid
    · cases valid
    · next sound =>
      simp only [Bool.or_eq_true, Bool.not_eq_true', decide_eq_true_iff, not_or,
        Bool.not_eq_false] at sound
      exact le_iff_not_lt.2 ⟨isNaN_zero, Float32.isNaN_of_isFinite sound.1, sound.2⟩

/-- What counts of a time step is finite and does not go backwards. -/
theorem Fight.timeStep_nonneg (dt : Float32) :
    0 ≤ timeStep dt ∧ (timeStep dt).isFinite = true := by
  rw [timeStep]
  split
  · next finite =>
    refine ⟨le_atLeast isNaN_zero dt, ?_⟩
    rw [Float32.atLeast]
    split
    · exact finite
    · rfl
  · exact ⟨le_refl isNaN_zero, rfl⟩

/-! ## Fights -/

/-- Gauges, ends of pauses and clock are numbers that are not negative, and the combatants' numbers are in
their domains. -/
structure Fight.Steady (f : Fight σ) : Prop where
  clock : 0 ≤ f.clock
  value (side : Side) : 0 ≤ (f.gauges.get side).value
  nextAttackAt (side : Side) : 0 ≤ (f.gauges.get side).nextAttackAt
  inDomain : f.InDomain

namespace Fight.Steady

variable {f g : Fight σ}

/-- Effects and damage do not reach gauges and clock. -/
theorem called (h : f.Steady) (clock : g.clock = f.clock) (gauges : g.gauges = f.gauges)
    (called : f.combatants.Called g.combatants) : g.Steady where
  clock := clock ▸ h.clock
  value := gauges ▸ h.value
  nextAttackAt := gauges ▸ h.nextAttackAt
  inDomain := h.inDomain.called called

theorem opening (player enemy : Profile) (forests : List Forest) (maskCount : UInt32) (rng : Stream)
    (memory : σ) : (opening player enemy forests maskCount rng memory).Steady where
  clock := le_refl isNaN_zero
  value side := by cases side <;> exact le_refl isNaN_zero
  nextAttackAt side := by cases side <;> exact le_refl isNaN_zero
  inDomain := opening_inDomain player enemy forests maskCount rng memory

theorem advance (h : f.Steady) (dt : Float32) :
    (f.advance (timeStep dt)).Steady ∧ f.clock ≤ (f.advance (timeStep dt)).clock := by
  obtain ⟨nonneg, finite⟩ := timeStep_nonneg dt
  have later : f.clock ≤ f.clock + timeStep dt := le_add_of_nonneg h.clock nonneg
  have filled (side : Side) :
      0 ≤ (f.gauges.get side).value + (f.combatants.get side).speedRate.toSingle * timeStep dt := by
    -- both factors are finite, so that no infinity meets a zero
    obtain ⟨speed, bounded⟩ := Int32.toSingle_of_nonneg (h.inDomain side).speedRate
    exact Float32.add_nonneg (h.value side) (Float32.mul_nonneg speed nonneg bounded finite)
  refine ⟨⟨le_trans h.clock later, fun side => ?_, fun side => ?_, h.inDomain⟩, later⟩
  · rw [Fight.advance, PerSide.get_mapSides]
    exact filled side
  · rw [Fight.advance, PerSide.get_mapSides]
    exact h.nextAttackAt side

/-- An attack takes from the gauge what is in it, and sets the end of the pause to a time to come. -/
theorem spendGauge (h : f.Steady) (valid : arena.ruleset.flaw? = none) {side : Side}
    (ready : f.isReady arena side = true) : (f.spendGauge arena side).Steady := by
  obtain ⟨pos, finite⟩ := arena.ruleset.speedThreshold_pos
  have pause := Ruleset.attackInterval_of_flaw? valid
  have enough : arena.ruleset.speedThreshold ≤ (f.gauges.get side).value :=
    le_iff_not_lt.2
      ⟨(isNaN_of_le (le_of_lt pos)).2, (isNaN_of_le (h.value side)).2, (isReady_eq_true_iff.1 ready).1⟩
  -- the gauge may be infinite, but the threshold is not
  have left : 0 ≤ (f.gauges.get side).value - arena.ruleset.speedThreshold :=
    Float32.sub_nonneg (le_of_lt pos) finite enough
  have next : 0 ≤ f.clock + arena.ruleset.attackIntervalSecs := Float32.add_nonneg h.clock pause
  refine ⟨h.clock, fun other => ?_, fun other => ?_, h.inDomain⟩
  · have kept := h.value other
    cases side <;> cases other <;> assumption
  · have kept := h.nextAttackAt other
    cases side <;> cases other <;> assumption

/-- A fight stays steady, and its clock does not go back behind a time that it has shown. -/
theorem kept (valid : r.flaw? = none) (since : Float32) :
    Fight.Kept r fun (f : Fight σ) _ => since ≤ f.clock ∧ f.Steady where
  advance dt h := by
    obtain ⟨steady, later⟩ := h.2.advance dt
    exact ⟨le_trans h.1 later, steady⟩
  attack hr ready h := by
    have spent := h.2.spendGauge (hr ▸ valid) ready
    exact ⟨h.1, spent.called rfl rfl (Blow.resolved_called _)⟩
  close h := ⟨h.1, h.2.called rfl rfl (traverse_called _ _ none)⟩

end Fight.Steady

/-- The views of a battle whose fight, if there is one, is steady. -/
theorem Battle.steady_views {b : Battle σ} (h : ∀ f, b.stage.fight? = some f → f.Steady) :
    0 ≤ b.elapsed ∧ ∀ side, 0 ≤ (b.gauge side).value ∧ 0 ≤ (b.gauge side).nextAttackAt := by
  have zero : (0 : Float32) ≤ 0 := le_refl isNaN_zero
  cases hf : b.stage.fight? with
  | none =>
    simp only [elapsed, gauge, hf]
    exact ⟨zero, fun _ => ⟨zero, zero⟩⟩
  | some f =>
    have steady := h f hf
    simp only [elapsed, gauge, hf]
    exact ⟨steady.clock, fun side => ⟨steady.value side, steady.nextAttackAt side⟩⟩

/-- A display is shown a gauge between zero and one. -/
theorem Battle.view_gaugeRatio {b : Battle σ} {side : Side} (h : 0 ≤ (b.gauge side).value)
    {view : CombatantView} (shown : b.view? side = some view) :
    0 ≤ view.gaugeRatio ∧ view.gaugeRatio ≤ 1 := by
  obtain ⟨c, -, rfl⟩ := Option.map_eq_some_iff.1 shown
  obtain ⟨pos, finite⟩ := b.arena.ruleset.speedThreshold_pos
  exact Float32.within_mem Float32.zero_le_one (Float32.isNaN_div (isNaN_of_le h).2 finite pos)

namespace Course

/-- With tuning numbers that a battle can be fought with, the following holds after any calls. The battle
clock, both gauges and the ends of both pauses are numbers that are not negative. As long as no other
battle is started, the clock does not go back. What a display shows of a gauge lies between zero and one. -/
theorem calls_steady (ruleset : Ruleset) (valid : ruleset.flaw? = none) (memory : σ)
    (calls : List (Call σ)) :
    let c := (new ruleset memory).calls calls
    (0 ≤ c.battle.elapsed ∧ c.battle.elapsed.isNaN = false) ∧
      (∀ side, ∀ x ∈ [(c.battle.gauge side).value, (c.battle.gauge side).nextAttackAt],
        0 ≤ x ∧ x.isNaN = false) ∧
      (∀ later, c.battle.startsNone later = true →
        c.battle.elapsed ≤ (c.calls later).battle.elapsed) ∧
      ∀ side, ∀ view ∈ c.battle.view? side, 0 ≤ view.gaugeRatio ∧ view.gaugeRatio ≤ 1 := by
  intro c
  have kept (since : Float32) :
      Fight.Kept ruleset fun (f : Fight σ) _ => since ≤ f.clock ∧ f.Steady :=
    Fight.Steady.kept valid since
  have held : c.Holds ruleset fun f _ => 0 ≤ f.clock ∧ f.Steady :=
    (kept 0).courses (fun _ _ _ _ _ _ => ⟨le_refl isNaN_zero, .opening ..⟩) memory calls
  obtain ⟨clock, gauges⟩ := Battle.steady_views fun f hf => (held.fight f hf).2
  refine ⟨⟨clock, (isNaN_of_le clock).2⟩, fun side => ?_, fun later none => ?_,
    fun side view shown => Battle.view_gaugeRatio (gauges side).1 shown⟩
  · simp only [List.forall_mem_cons]
    exact ⟨⟨(gauges side).1, (isNaN_of_le (gauges side).1).2⟩,
      ⟨(gauges side).2, (isNaN_of_le (gauges side).2).2⟩, by simp⟩
  · cases hf : c.battle.stage.fight? with
    | none =>
      have after := Battle.steady_views fun f hf => (((kept 0).calls held none).fight f hf).2
      have zero : c.battle.elapsed = 0 := by
        rw [Battle.elapsed, hf]
        rfl
      exact zero ▸ after.1
    | some f =>
      -- what the clock shows now is the time behind which it does not go back
      have steady := (held.fight f hf).2
      obtain ⟨g, hg, notBack, -⟩ := (kept f.clock).calls_fight held.ruleset hf
        ⟨le_refl (isNaN_of_le steady.clock).2, steady⟩ none
      rw [Battle.elapsed_of_fight hf, Battle.elapsed_of_fight hg]
      exact notBack

end Course

/-- A hunt for something that outlives the first hit. -/
def longHunt : BattleSetup :=
  { hunt [] with enemy := some { name := "Golem", maxHp := 100, speedRate := 0 } }

/-- A step of time that floods the gauge of the hunter, which stays full whatever is taken from it, and
steps after it that count for nothing. -/
theorem flooded_gauge :
    let c := (Course.new { critEnabled := false } ()).calls [.start longHunt, .tick (.ofScaled false 1 127)]
    let later : List (Call Unit) := [.tick .notANumber, .tick (-1), .tick (.infinity false)]
    Ruleset.flaw? { critEnabled := false } = none ∧
      (c.battle.gauge .player).value = .infinity false ∧
      (∀ view ∈ c.battle.view? .player, view.gaugeRatio ≤ 1) ∧
      c.battle.elapsed ≤ (c.calls later).battle.elapsed := by
  intro c later
  have valid : Ruleset.flaw? { critEnabled := false } = none := by decide +kernel
  have none : c.battle.startsNone later = true := by decide +kernel
  obtain ⟨-, -, notBack, shown⟩ := Course.calls_steady { critEnabled := false } valid ()
    [.start longHunt, .tick (.ofScaled false 1 127)]
  exact ⟨valid, by decide +kernel, fun view hview => (shown .player view hview).2, notBack later none⟩

end Masquerade
