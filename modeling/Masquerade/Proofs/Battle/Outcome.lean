import Mathlib.Data.List.Induction
import Masquerade.Proofs.Battle.Course
import Masquerade.Proofs.Single.Order

/-!
# Outcomes

A battle gets its outcome from the tick that finds it decided. The effects of the battle's end run
first and the outcome is read after them (`Course.outcome_of_end`), so these effects have the last
word about who stands. What can change it is narrow: an effect must move the current HP along with the
greatest HP (`Effect.movesHp`). Any other effect leaves both sides standing or fallen as they were
(`Fight.closed_fallen`).
-/

namespace Masquerade

variable {σ : Type}

/-- Which sides have fallen. -/
def PerSide.fallen (cs : PerSide Combatant) : PerSide Bool := cs.mapSides fun _ c => c.isDead

/-! ## Who stands after a change -/

namespace Combatant

/-- A combatant whose HP do not move with the greatest HP stands or falls as before. -/
theorem isDead_addMaxHp (c : Combatant) (d : Float32) :
    (c.addMaxHp d false).isDead = c.isDead := by
  have pos : 0 < (c.maxHp + d).atLeast 1 := Float32.atLeast_one_pos _
  show decide (c.currentHp.within 0 _ ≤ 0) = decide (c.currentHp ≤ 0)
  rw [decide_eq_decide]
  exact Float32.within_le_zero_iff pos c.currentHp

theorem isDead_add? {c c' : Combatant} {stat : Stat} {amount : Float32} {heal : Bool}
    (h : c.add? stat amount heal = some c') (still : heal = true → stat ≠ .maxHp) :
    c'.isDead = c.isDead := by
  cases stat with
  | maxHp =>
    cases heal with
    | true => exact absurd rfl (still rfl)
    | false =>
      cases h
      exact c.isDead_addMaxHp amount
  | luck => cases h
  | attack | defense | critChance | critMultiplier | speedRate | penetrationFlat
  | penetrationPercent =>
    cases h
    rfl

theorem isDead_addAll (amounts : List (Stat × Float32)) {heal : Bool}
    (still : heal = true → ∀ a ∈ amounts, a.1 ≠ .maxHp) (c : Combatant) :
    (c.addAll amounts heal).isDead = c.isDead := by
  induction amounts generalizing c with
  | nil => rfl
  | cons a rest ih =>
    have first : ((c.add? a.1 a.2 heal).getD c).isDead = c.isDead := by
      cases h : c.add? a.1 a.2 heal with
      | none => rfl
      | some c' => exact isDead_add? h fun on => still on a List.mem_cons_self
    have later := ih (fun on b hb => still on b (List.mem_cons_of_mem a hb))
      ((c.add? a.1 a.2 heal).getD c)
    exact later.trans first

end Combatant

theorem PerSide.fallen_modify {cs : PerSide Combatant} {side : Side} {f : Combatant → Combatant}
    (h : (f (cs.get side)).isDead = (cs.get side).isDead) :
    (cs.modify side f).fallen = cs.fallen := by
  cases side with
  | player => exact congrArg (PerSide.mk · cs.enemy.isDead) h
  | enemy => exact congrArg (PerSide.mk cs.player.isDead) h

namespace Effect

/-- Whether the effect moves the current HP of a combatant along with its greatest HP. -/
def movesHp : Effect → Bool
  | addStats _ deltas heal persistent => heal && !persistent && deltas.any (·.1 = .maxHp)
  | percentAttach _ _ _ stat _ heal persistent => heal && !persistent && stat = .maxHp
  | _ => false

/-- Outside attacks, an effect that moves no HP leaves both sides standing or fallen. -/
theorem fallen_write? {e : Effect} (he : e.movesHp = false) {m : Moment}
    (outside : m.attacker = none ∧ m.defender = none) {s t : Targets}
    (h : e.write? m s = some t) :
    t.combatants.map PerSide.fallen = s.combatants.map PerSide.fallen := by
  cases e with
  | attackField | maskCountScale =>
    obtain ⟨a, -, rfl⟩ := Option.map_eq_some_iff.1 h
    rfl
  | addStats target deltas heal persistent =>
    cases persistent with
    | true =>
      obtain ⟨g, -, rfl⟩ := Option.map_eq_some_iff.1 h
      rfl
    | false =>
      obtain ⟨cs, hcs, rfl⟩ := Option.map_eq_some_iff.1 h
      have still : heal = true → ∀ a ∈ deltas, a.1 ≠ .maxHp := by
        simpa [movesHp] using he
      rw [hcs]
      exact congrArg some (PerSide.fallen_modify (Combatant.isDead_addAll deltas still _))
  | percentAttach source sourceStat target targetStat percent heal persistent =>
    obtain ⟨value, -, h⟩ := Option.bind_eq_some_iff.1 h
    cases persistent with
    | true =>
      obtain ⟨g, -, rfl⟩ := Option.map_eq_some_iff.1 h
      rfl
    | false =>
      obtain ⟨cs, hcs, h⟩ := Option.bind_eq_some_iff.1 h
      obtain ⟨c, hc, rfl⟩ := Option.map_eq_some_iff.1 h
      have still : heal = true → targetStat ≠ .maxHp := by simpa [movesHp] using he
      rw [hcs]
      exact congrArg some (PerSide.fallen_modify (Combatant.isDead_add? hc still))
  | restoreMana amount =>
    rw [write?] at h
    split at h
    · obtain ⟨pool, -, rfl⟩ := Option.map_eq_some_iff.1 h
      rfl
    · cases h
  | adjustHp target adjust =>
    -- outside attacks there is no participant that it could reach
    obtain ⟨side, hside, -⟩ := Option.bind_eq_some_iff.1 h
    cases target <;> simp [HpTarget.side?, outside] at hside

end Effect

/-! ## The end of a fight -/

namespace Fight

/-- The effects to which the walk at the end of a fight comes. -/
def endEffects (f : Fight σ) : List Effect :=
  Forest.reachedAll f.forests (f.moment .battleEnd f.counters.actions)
    { attack := none, combatants := some f.combatants } f.rng

/-- Effects that move no HP do not change who stands at the end of a fight. -/
theorem closed_fallen {f : Fight σ} (still : ∀ e ∈ f.endEffects, e.movesHp = false) :
    f.closed.combatants.fallen = f.combatants.fallen := by
  have kept := Forest.runAll_rel (m := f.moment .battleEnd f.counters.actions)
    (R := fun s t => t.combatants.map PerSide.fallen = s.combatants.map PerSide.fallen)
    (fun _ => rfl) (fun h₁ h₂ => h₂.trans h₁) f.forests
    { attack := none, combatants := some f.combatants } f.rng
    (fun e he _ _ h =>
      Effect.fallen_write? (still e he) ⟨rfl, rfl⟩ (Effect.write?_of_perform? h).2)
  obtain ⟨cs, hcs, same⟩ := Option.map_eq_some_iff.1 kept
  show ((Forest.runAll f.forests _ _ f.rng).2.1.combatants.getD f.combatants).fallen = _
  rw [hcs]
  exact same

theorem outcome_eq_victory_iff (f : Fight σ) :
    f.outcome = .victory ↔
      f.combatants.player.isDead = false ∧ f.combatants.enemy.isDead = true := by
  rw [outcome]
  cases f.combatants.player.isDead <;> cases f.combatants.enemy.isDead <;> simp

theorem outcome_congr {f g : Fight σ} (h : f.combatants.fallen = g.combatants.fallen) :
    f.outcome = g.outcome := by
  have player : f.combatants.player.isDead = g.combatants.player.isDead :=
    congrArg PerSide.player h
  have enemy : f.combatants.enemy.isDead = g.combatants.enemy.isDead := congrArg PerSide.enemy h
  rw [outcome, outcome, player, enemy]

end Fight

namespace Battle

/-- The fight as a tick finds it decided, before the effects of the battle's end run. -/
def decided? (b : Battle σ) (dt : Float32) : Option (Fight σ) :=
  match b.stage with
  | .fighting f =>
    let f := f.tickEnd b.arena dt
    if f.combatants.isDecided then some f else none
  | _ => none

theorem decided?_fighting {b : Battle σ} {f : Fight σ} (hb : b.stage = .fighting f)
    (dt : Float32) :
    b.decided? dt =
      if (f.tickEnd b.arena dt).combatants.isDecided then some (f.tickEnd b.arena dt) else none := by
  rw [decided?, hb]

/-- A tick that gives a battle its outcome has found the fight decided. -/
theorem exists_decided_of_outcome {b : Battle σ} {f : Fight σ} (hb : b.stage = .fighting f)
    {dt : Float32} {outcome : Outcome} (h : (b.tick dt).2.stage.outcome? = some outcome) :
    ∃ g, b.decided? dt = some g ∧ (b.tick dt).2.stage = .ended g.closed (some outcome) ∧
      g.closed.outcome = outcome := by
  rw [decided?_fighting hb]
  rw [tick_fighting hb] at h ⊢
  by_cases decided : (f.tickEnd b.arena dt).combatants.isDecided = true
  · simp only [Fight.stage, if_pos decided] at h ⊢
    cases h
    exact ⟨_, rfl, rfl, rfl⟩
  · simp only [Fight.stage, if_neg decided] at h
    cases h

/-- Only a tick of a fight gives a battle an outcome that it did not have. -/
theorem tick_or_same_of_outcome {b : Battle σ} {x : Call σ} {outcome : Outcome}
    (h : (b.call x).2.stage.outcome? = some outcome) :
    (∃ dt f, x = .tick dt ∧ b.stage = .fighting f) ∨ (b.call x).2.stage = b.stage := by
  cases x with
  | start setup =>
    cases b.reaction_start setup with
    | started _ _ _ _ _ _ _ stage =>
      rw [stage] at h
      cases h
    | ticked _ _ _ refused | stopped _ _ refused | unchanged refused =>
      exact .inr (by rw [call_of_refused refused])
  | tick dt =>
    cases hb : b.stage with
    | fighting f => exact .inl ⟨dt, f, rfl, rfl⟩
    | idle | ended =>
      refine .inr ?_
      simp only [call, tick, hb]
  | stop =>
    cases hb : b.stage with
    | fighting f =>
      simp only [call, stop, hb] at h
      cases h
    | idle | ended =>
      refine .inr ?_
      simp only [call, stop, hb]
  | addStep side step => exact .inr (b.addStep?_getD_stage side step)
  | setFinalizer side step => exact .inr rfl

end Battle

namespace Course

theorem calls_concat (c : Course σ) (xs : List (Call σ)) (x : Call σ) :
    c.calls (xs ++ [x]) = (c.calls xs).call x := by
  rw [calls, List.foldl_append]
  rfl

/-- Wherever there is an outcome, some tick has found the fight decided and has ended it, and no call
since then has changed the stage. -/
theorem exists_deciding_tick {c : Course σ} (new : c.battle.stage.outcome? = none)
    {xs : List (Call σ)} {outcome : Outcome}
    (h : (c.calls xs).battle.stage.outcome? = some outcome) :
    ∃ early dt late f, xs = early ++ .tick dt :: late ∧
      (c.calls early).battle.decided? dt = some f ∧
      (c.calls xs).battle.stage = .ended f.closed (some outcome) ∧
      f.closed.outcome = outcome := by
  induction xs using List.reverseRecOn with
  | nil =>
    rw [calls_nil, new] at h
    cases h
  | append_singleton xs x ih =>
    rw [calls_concat] at h ⊢
    change ((c.calls xs).battle.call x).2.stage.outcome? = some outcome at h
    show ∃ early dt late f, _ ∧ _ ∧ ((c.calls xs).battle.call x).2.stage = _ ∧ _
    obtain ⟨dt, f, rfl, hf⟩ | same := Battle.tick_or_same_of_outcome h
    · obtain ⟨g, found⟩ := Battle.exists_decided_of_outcome hf h
      exact ⟨xs, dt, [], g, rfl, found⟩
    · rw [same] at h ⊢
      obtain ⟨early, dt, late, f, hxs, found⟩ := ih h
      exact ⟨early, dt, late ++ [x], f, by rw [hxs]; simp, found⟩

/-- A battle that has an outcome has got it from a tick that found the fight decided. The outcome is a
victory exactly if the player stands and the enemy has fallen once the effects of the battle's end have
run. If none of these effects moves HP along with the greatest HP, it is a victory exactly if this was
so when the fight was found decided. -/
theorem outcome_of_end (ruleset : Ruleset) (memory : σ) (calls : List (Call σ)) (outcome : Outcome)
    (h : ((new ruleset memory).calls calls).battle.stage.outcome? = some outcome) :
    ∃ early dt late f, calls = early ++ .tick dt :: late ∧
      ((new ruleset memory).calls early).battle.decided? dt = some f ∧
      ((new ruleset memory).calls calls).battle.stage = .ended f.closed (some outcome) ∧
      (outcome = .victory ↔ f.closed.combatants.player.isDead = false ∧
        f.closed.combatants.enemy.isDead = true) ∧
      ((∀ e ∈ f.endEffects, e.movesHp = false) →
        (outcome = .victory ↔ f.combatants.player.isDead = false ∧
          f.combatants.enemy.isDead = true)) := by
  obtain ⟨early, dt, late, f, split, decided, stage, rfl⟩ := exists_deciding_tick rfl h
  refine ⟨early, dt, late, f, split, decided, stage, f.closed.outcome_eq_victory_iff,
    fun still => ?_⟩
  rw [Fight.outcome_congr (Fight.closed_fallen still)]
  exact f.outcome_eq_victory_iff

end Course

/-- A fight in which the player's first hit takes all HP of the enemy. -/
def hunt (forests : List Forest) : BattleSetup where
  player := { name := "Hero", maxHp := 50, attack := 20, speedRate := 10 }
  enemy := some { name := "Slime", maxHp := 10, speedRate := 0 }
  forests := forests
  maskCount := 1

/-- An effect of the battle's end on stats of one side. -/
def afterglow (side : Side) (deltas : List (Stat × Float32)) : Forest :=
  let (_, F) := (Forest.empty "afterglow").addGate none { condition := .battleEnd }
  (F.addEffect (some 0) (.addStats side deltas true false)).2

/-- A hunt whose end raises a stat other than HP is won: the enemy has fallen when the fight is found decided,
and it has still fallen after that effect. -/
theorem hunt_won :
    let c := (Course.new { critEnabled := false } ()).calls
      [.start (hunt [afterglow .enemy [(.defense, 3)]]), .tick 1]
    c.battle.stage.outcome? = some .victory ∧
      ∃ f : Fight Unit, c.battle.stage = .ended f.closed (some .victory) ∧
        f.closed.combatants.player.isDead = false ∧ f.closed.combatants.enemy.isDead = true ∧
        f.endEffects = [.addStats .enemy [(.defense, 3)] true false] ∧
        (∀ e ∈ f.endEffects, e.movesHp = false) ∧
        f.combatants.player.isDead = false ∧ f.combatants.enemy.isDead = true := by
  intro c
  let calls : List (Call Unit) := [.start (hunt [afterglow .enemy [(.defense, 3)]])]
  let b := ((Course.new { critEnabled := false } ()).calls calls).battle
  have won : c.battle.stage.outcome? = some .victory := by decide +kernel
  have ending : ∀ f ∈ b.decided? 1,
      f.endEffects = [.addStats .enemy [(.defense, 3)] true false] := by decide +kernel
  obtain ⟨early, dt, late, f, split, decided, stage, standing, unmoved⟩ :=
    Course.outcome_of_end _ _ _ _ won
  -- the hunt has one tick, so this is the one that found it decided
  obtain ⟨rfl, rfl⟩ : early = calls ∧ dt = 1 := by
    match early, split with
    | [first], split =>
      cases split
      exact ⟨rfl, rfl⟩
    | [], split => cases split
    | _ :: _ :: _, split => simp at split
  have effects := ending f decided
  have still : ∀ e ∈ f.endEffects, e.movesHp = false := by
    rw [effects]
    decide
  obtain ⟨player, enemy⟩ := standing.1 rfl
  exact ⟨won, f, stage, player, enemy, effects, still, (unmoved still).1 rfl⟩

/-- Who stands when the fight is found decided does not settle the outcome: HP that come with greatest
HP at the end bring the enemy back, and the hunt is lost. -/
theorem hunt_lost_at_the_end :
    ¬ ∀ (calls : List (Call Unit)) (dt : Float32) (f : Fight Unit) (outcome : Outcome),
      let b := ((Course.new { critEnabled := false } ()).calls calls).battle
      b.decided? dt = some f → (b.tick dt).2.stage.outcome? = some outcome →
        (outcome = .victory ↔
          f.combatants.player.isDead = false ∧ f.combatants.enemy.isDead = true) := by
  intro law
  let calls : List (Call Unit) := [.start (hunt [afterglow .enemy [(.maxHp, 5)]])]
  let b := ((Course.new { critEnabled := false } ()).calls calls).battle
  have found : (b.decided? 1).isSome = true := by decide +kernel
  have standing : ∀ f ∈ b.decided? 1,
      f.combatants.player.isDead = false ∧ f.combatants.enemy.isDead = true := by decide +kernel
  have lost : (b.tick 1).2.stage.outcome? = some .defeat := by decide +kernel
  obtain ⟨f, hf⟩ := Option.isSome_iff_exists.1 found
  have won := (law calls 1 f .defeat hf lost).2 (standing f hf)
  cases won

end Masquerade
