import Mathlib.Algebra.GroupWithZero.Nat
import Masquerade.Proofs.Battle.Mirror
import Masquerade.Proofs.Battle.Moments
import Masquerade.Proofs.Battle.Pauses
import Masquerade.Proofs.Logic.Rolls

/-!
# The random words of a battle

With the built-in rule alone in both pipelines a battle draws a word for every gate with a chance that
its walks ask, and one more for every attack of a side whose rule has critical hits switched on. Nothing
else of a battle has a part in it, be it chances, damage or defense (`Battle.plays_draws`): two battles
that stop at as many such gates and make as many attacks have moved on their random words by as much.
-/

namespace Masquerade

open RandomWords (Stream)

variable {σ : Type} {arena : Arena σ} {crit : PerSide Bool}

/-! ## The built-in rule -/

/-- Both pipelines hold the built-in rule and no other step. Which parts of the rule are switched on can
differ between the sides, and `crit` tells whose attacks roll for critical hits. -/
def Arena.BuiltIn (arena : Arena σ) (crit : PerSide Bool) : Prop :=
  ∀ side, ∃ rule : FinalDamage, rule.critEnabled = crit.get side ∧
    arena.pipelines.get side = ⟨[], some (rule.step σ)⟩

/-- Against a defender the rule draws one word if it has critical hits, whatever the attack. -/
theorem FinalDamage.settle_draws (rule : FinalDamage) (a : Attack) (defender : Combatant)
    (rng : Stream) :
    (rule.settle a (some defender) rng).2 = rng.skip rule.critEnabled.toNat := by
  rw [settle]
  dsimp only
  split
  · next enabled =>
    rw [enabled]
    split <;> exact rng.roll_draws
  · next disabled =>
    rw [Bool.eq_false_iff.2 disabled]
    rfl

/-! ## Walks and attacks -/

namespace Fight

/-- How many of the stops of a walk of the forests in play are at gates that roll. -/
def rolls (f : Fight σ) (m : Moment) (a : Option Attack) : Nat :=
  Forest.rollsAll f.forests m { attack := a, combatants := some f.combatants } f.rng

theorem traverse_draws (f : Fight σ) (m : Moment) (a : Option Attack) :
    (f.traverse m a).1.rng = f.rng.skip (f.rolls m a) :=
  Forest.runAll_draws f.forests m { attack := a, combatants := some f.combatants } f.rng

end Fight

namespace Blow

/-- How many of the stops of the two walks of an attack are at gates that roll. -/
def rolls (arena : Arena σ) (b : Blow σ) : Nat :=
  b.fight.rolls (b.fight.attackMoment .attackModify b.side b.built 0) (some b.built) +
    (b.struck arena).rolls ((b.struck arena).attackMoment .damageApplied b.side (b.settled arena)
      (b.settled arena).damage) none

theorem strike_draws (h : arena.BuiltIn crit) (b : Blow σ) :
    (b.strike arena).rng = b.announced.rng.skip (crit.get b.side).toNat := by
  obtain ⟨rule, enabled, pipeline⟩ := h b.side
  rw [strike, pipeline, ← enabled]
  exact rule.settle_draws ..

/-- An attack draws the words of its two walks, and between them one for a critical hit. -/
theorem resolved_draws (h : arena.BuiltIn crit) (b : Blow σ) :
    (b.resolved arena).rng = b.fight.rng.skip (b.rolls arena + (crit.get b.side).toNat) := by
  have announced : b.announced.rng = b.fight.rng.skip _ :=
    b.fight.traverse_draws (b.fight.attackMoment .attackModify b.side b.built 0) (some b.built)
  have struck : (b.struck arena).rng = b.announced.rng.skip (crit.get b.side).toNat :=
    b.strike_draws h
  have resolved : (b.resolved arena).rng = (b.struck arena).rng.skip _ :=
    (b.struck arena).traverse_draws ((b.struck arena).attackMoment .damageApplied b.side
      (b.settled arena) (b.settled arena).damage) none
  rw [resolved, struck, announced, Stream.skip_skip, Stream.skip_skip, rolls]
  congr 1
  omega

end Blow

/-- The attacks of an exchange draw their words one after the other. -/
theorem Exchange.draws (h : arena.BuiltIn crit) {f : Fight σ} {blows : List (Blow σ)}
    (e : Exchange arena f blows) :
    (f.after arena blows).rng = f.rng.skip
      ((blows.map (·.rolls arena)).sum + (blows.map (·.side)).countP crit.get) := by
  induction e with
  | still f => rfl
  | @blow f side rest undecided ready later ih =>
    have first := Blow.resolved_draws h ⟨side, f.spendGauge arena side⟩
    rw [Fight.after_cons, ih, first, Stream.skip_skip]
    congr 1
    simp only [List.map_cons, List.sum_cons, List.countP_cons]
    cases crit.get side <;> simp <;> omega

/-! ## Ticks -/

namespace Fight

/-- How many of the stops of the walk at the end of a fight, if it has come to its end, are at gates
that roll. -/
def closingRolls (f : Fight σ) : Nat :=
  if f.combatants.isDecided then f.rolls (f.moment .battleEnd f.counters.actions) none else 0

/-- How many of the stops of the walks in a tick are at gates that roll. -/
def tickRolls (arena : Arena σ) (f : Fight σ) (dt : Float32) : Nat :=
  ((f.tickBlows arena dt).map (·.rolls arena)).sum + (f.tickEnd arena dt).closingRolls

theorem stage_draws (f : Fight σ) : f.stage.rng = f.rng.skip f.closingRolls := by
  rw [stage, closingRolls]
  split
  · exact f.traverse_draws _ none
  · rfl

theorem tick_draws (h : arena.BuiltIn crit) (f : Fight σ) (dt : Float32) :
    (f.tick arena dt).2.rng = f.rng.skip (f.tickRolls arena dt +
      ((f.tick arena dt).1.filterMap Event.attacker?).countP crit.get) := by
  have start : (f.tickStart dt).rng = f.rng := by
    rw [tickStart]
    split <;> rfl
  have blows := (f.tickBlows_exchange arena dt).draws h
  rw [tick_eq, attackers_tick, stage_draws, tickEnd, blows, start, Stream.skip_skip, tickRolls,
    tickEnd]
  congr 1
  omega

end Fight

/-! ## Calls -/

namespace Battle

/-- How many of the stops of the walks in a call are at gates that roll. A start that is accepted walks
the forests of its setup once. -/
def rolls (b : Battle σ) : Call σ → Nat
  | .start setup =>
    match b.isFighting, setup.enemy with
    | false, some enemy =>
      (Fight.unopened setup.player enemy setup.forests setup.maskCount b.stage.rng
        b.stage.memory).rolls (Fight.openingMoment setup.maskCount) none
    | _, _ => 0
  | .tick dt =>
    match b.stage with
    | .fighting f => f.tickRolls b.arena dt
    | _ => 0
  | .stop | .addStep _ _ | .setFinalizer _ _ => 0

/-- The same for calls one after the other. -/
def rollsAll (b : Battle σ) : List (Call σ) → Nat
  | [] => 0
  | x :: rest => b.rolls x + (b.call x).2.rollsAll rest

theorem start_draws (b : Battle σ) (setup : BattleSetup) :
    (b.call (.start setup)).2.stage.rng = b.stage.rng.skip (b.rolls (.start setup)) ∧
      (b.call (.start setup)).1.filterMap Event.attacker? = [] := by
  rw [rolls]
  cases fighting : b.isFighting with
  | true =>
    obtain ⟨f, hf⟩ := exists_fight fighting
    simp [call, start, hf, Stage.rng]
  | false =>
    rw [call, start_idle fighting]
    cases setup.enemy with
    | none => exact ⟨rfl, rfl⟩
    | some enemy => exact ⟨Fight.traverse_draws .., rfl⟩

/-- A call draws a word at every gate that rolls, and one more for each attack of a side with critical
hits. The pipelines matter where attacks are made, in ticks of a fight. -/
theorem call_draws {b : Battle σ} {x : Call σ}
    (h : ∀ dt, x = .tick dt → b.isFighting = true → b.arena.BuiltIn crit) :
    (b.call x).2.stage.rng = b.stage.rng.skip (b.rolls x +
      ((b.call x).1.filterMap Event.attacker?).countP crit.get) := by
  cases x with
  | start setup =>
    obtain ⟨words, peaceful⟩ := b.start_draws setup
    rw [words, peaceful]
    rfl
  | tick dt =>
    rw [call, rolls, tick]
    cases hb : b.stage with
    | fighting f => exact f.tick_draws (h dt rfl (by rw [isFighting, hb])) dt
    | idle | ended => simp [hb]
  | stop =>
    rw [call, rolls, stop]
    cases hb : b.stage <;> simp [hb, Stage.rng]
  | addStep side step => exact congrArg Stage.rng (b.addStep?_getD_stage side step)
  | setFinalizer side step => rfl

/-- Both pipelines hold the built-in rule alone whenever a call moves a fight on. -/
def TicksBuiltIn (b : Battle σ) (crit : PerSide Bool) (calls : List (Call σ)) : Prop :=
  ∀ early dt late, calls = early ++ .tick dt :: late →
    (b.plays early).2.isFighting = true → (b.plays early).2.arena.BuiltIn crit

theorem plays_draws (b : Battle σ) (calls : List (Call σ)) (h : b.TicksBuiltIn crit calls) :
    (b.plays calls).2.stage.rng = b.stage.rng.skip (b.rollsAll calls +
      ((b.plays calls).1.flatten.filterMap Event.attacker?).countP crit.get) := by
  induction calls generalizing b with
  | nil => rfl
  | cons x rest ih =>
    have first : (b.call x).2.stage.rng = b.stage.rng.skip _ :=
      call_draws fun dt hx => h [] dt rest (by rw [hx]; rfl)
    have later := ih (b.call x).2 fun early dt late split =>
      h (x :: early) dt late (by rw [split]; rfl)
    rw [plays]
    dsimp only
    rw [later, first, Stream.skip_skip, rollsAll, List.flatten_cons, List.filterMap_append,
      List.countP_append]
    congr 1
    omega

/-! ## Pipelines that are left alone -/

end Battle

/-- Whether a call leaves the pipelines to the battle. -/
def Call.keepsPipelines : Call σ → Bool
  | .addStep _ _ | .setFinalizer _ _ => false
  | _ => true

namespace Battle

/-- Every pipeline is empty or holds the rule of the ruleset alone, and in a fight none is empty. -/
structure Standard (r : Ruleset) (b : Battle σ) : Prop where
  ruleset : b.arena.ruleset = r
  pipelines (side : Side) :
    b.arena.pipelines.get side = ⟨[], some ((FinalDamage.ofRuleset r).step σ)⟩ ∨
      b.isFighting = false ∧ b.arena.pipelines.get side = .empty

namespace Standard

variable {r : Ruleset} {b : Battle σ}

theorem new (r : Ruleset) (memory : σ) : (Battle.new r memory).Standard r :=
  ⟨rfl, fun side => .inr ⟨rfl, by cases side <;> rfl⟩⟩

theorem start (h : b.Standard r) (setup : BattleSetup) : (b.call (.start setup)).2.Standard r := by
  cases fighting : b.isFighting with
  | true =>
    have refused : b.starts (.start setup) = false := by
      obtain ⟨f, hf⟩ := exists_fight fighting
      simp [starts, Battle.start, hf, Except.toBool]
    rw [call_of_refused refused]
    exact h
  | false =>
    rw [call, start_idle fighting]
    cases setup.enemy with
    | none => exact h
    | some enemy =>
      refine ⟨h.ruleset, fun side => .inl ?_⟩
      have filled : ((b.arena.pipelines.get side).ensureFinalizer
          ((FinalDamage.ofRuleset b.arena.ruleset).step σ)) =
          ⟨[], some ((FinalDamage.ofRuleset r).step σ)⟩ := by
        rw [h.ruleset]
        rcases h.pipelines side with own | ⟨-, none⟩
        · rw [own]
          rfl
        · rw [none]
          rfl
      cases side <;> exact filled

theorem call (h : b.Standard r) {x : Call σ} (hx : x.keepsPipelines = true) :
    (b.call x).2.Standard r := by
  cases x with
  | start setup => exact h.start setup
  | tick dt =>
    have arena : (b.call (.tick dt)).2.arena = b.arena := b.tick_arena dt
    refine ⟨arena ▸ h.ruleset, fun side => ?_⟩
    rw [arena]
    rcases h.pipelines side with own | ⟨idle, none⟩
    · exact .inl own
    · rw [Battle.call, tick_of_not_isFighting idle dt]
      exact .inr ⟨idle, none⟩
  | stop =>
    have arena : (b.call .stop).2.arena = b.arena := b.stop_arena
    refine ⟨arena ▸ h.ruleset, fun side => ?_⟩
    rw [arena]
    exact (h.pipelines side).imp_right fun none => ⟨b.stop_isFighting, none.2⟩
  | addStep | setFinalizer => cases hx

theorem plays (h : b.Standard r) {calls : List (Call σ)}
    (plain : ∀ x ∈ calls, x.keepsPipelines = true) : (b.plays calls).2.Standard r := by
  induction calls generalizing b with
  | nil => exact h
  | cons x rest ih =>
    exact ih (h.call (plain x List.mem_cons_self)) fun y hy => plain y (List.mem_cons_of_mem x hy)

/-- In a fight each side has the rule of the ruleset. -/
theorem builtIn (h : b.Standard r) (fighting : b.isFighting = true) :
    b.arena.BuiltIn (.both r.critEnabled) := by
  intro side
  rcases h.pipelines side with own | ⟨idle, -⟩
  · exact ⟨.ofRuleset r, by cases side <;> rfl, own⟩
  · rw [idle] at fighting
    cases fighting

theorem ticksBuiltIn (h : b.Standard r) {calls : List (Call σ)}
    (plain : ∀ x ∈ calls, x.keepsPipelines = true) :
    b.TicksBuiltIn (.both r.critEnabled) calls := by
  rintro early dt late rfl fighting
  exact (h.plays fun x hx => plain x (List.mem_append_left _ hx)).builtIn fighting

end Standard

end Battle

/-- Where both sides have critical hits or neither has, all attacks roll for them or none. -/
theorem countP_attackers (c : Bool) (events : List Event) :
    (events.filterMap Event.attacker?).countP (PerSide.both c).get =
      if c then attackCount events else 0 := by
  have flag : (PerSide.both c).get = fun _ => c := by
    funext side
    cases side <;> rfl
  rw [flag]
  cases c with
  | false => simp
  | true =>
    rw [List.countP_true, attackCount, List.length_filterMap_eq_countP]
    refine List.countP_congr fun e _ => ?_
    cases e <;> simp [Event.attacker?, Event.isAttack]

/-- A walk of a forest draws one word for each of its stops at a gate with a chance that is asked
outside descriptions, whatever the chance, and no other. With the built-in rule alone in the pipelines
whenever a fight is moved on, a battle draws one word for each such stop of its walks, the walk of each
start included, and one for every attack of a side whose rule has critical hits. A new battle whose
pipelines nobody changes has the rule of its ruleset on both sides. -/
theorem Battle.words_drawn (σ : Type) :
    (∀ (F : Forest) (m : Moment) (targets : Targets) (rng : Stream),
      (F.run m targets rng).2.2 = rng.skip (F.rolls m targets rng)) ∧
    (∀ (b : Battle σ) (crit : PerSide Bool) (calls : List (Call σ)),
      (∀ early dt late, calls = early ++ .tick dt :: late →
        (b.plays early).2.isFighting = true → (b.plays early).2.arena.BuiltIn crit) →
      (b.plays calls).2.stage.rng = b.stage.rng.skip (b.rollsAll calls +
        ((b.plays calls).1.flatten.filterMap Event.attacker?).countP crit.get)) ∧
    ∀ (ruleset : Ruleset) (memory : σ) (calls : List (Call σ)),
      (∀ x ∈ calls, x.keepsPipelines = true) →
      let b := Battle.new ruleset memory
      (b.plays calls).2.stage.rng = (Stream.ofSeed ruleset.seed).skip (b.rollsAll calls +
        if ruleset.critEnabled then attackCount (b.plays calls).1.flatten else 0) := by
  refine ⟨Forest.run_draws, fun b crit calls h => b.plays_draws calls h, ?_⟩
  intro ruleset memory calls plain b
  have standard : b.TicksBuiltIn (.both ruleset.critEnabled) calls :=
    (Battle.Standard.new ruleset memory).ticksBuiltIn plain
  rw [b.plays_draws calls standard, countP_attackers]
  rfl

/-- A forest with a gate whose chance is no number. -/
def omen : Forest := ((Forest.empty "omen").addGate none { condition := .chance .notANumber }).2

/-- In two ticks with one attack each, the gate is asked five times and two attacks roll. In a battle
whose player has critical hits switched off, the gate is asked three times in a tick after the start, and
the attack does not roll. -/
theorem omens_drawn :
    let b : Battle Unit := .new {} ()
    let plain : List (Call Unit) := [.start (sparring [omen]), .tick 1, .tick 1]
    let changed : List (Call Unit) := [.start (sparring [omen]),
      .setFinalizer .player ((⟨true, false⟩ : FinalDamage).step Unit), .tick 1]
    ((∀ x ∈ plain, x.keepsPipelines = true) ∧
      (b.plays plain).2.stage.rng = (Stream.ofSeed 0).skip (5 + 2)) ∧
    b.TicksBuiltIn ⟨false, true⟩ changed ∧
      (b.plays changed).2.stage.rng = (Stream.ofSeed 0).skip (3 + 0) := by
  intro b plain changed
  obtain ⟨-, builtIn, kept⟩ := Battle.words_drawn Unit
  refine ⟨?_, ?_⟩
  · have keeps : ∀ x ∈ plain, x.keepsPipelines = true := by decide
    have asked : b.rollsAll plain = 5 := by decide +kernel
    have attacks : attackCount (b.plays plain).1.flatten = 2 := by decide +kernel
    have drawn : (b.plays plain).2.stage.rng = (Stream.ofSeed 0).skip (b.rollsAll plain +
        attackCount (b.plays plain).1.flatten) := kept {} () plain keeps
    rw [asked, attacks] at drawn
    exact ⟨keeps, drawn⟩
  · have ticks : b.TicksBuiltIn ⟨false, true⟩ changed := by
      intro early dt late split _ side
      -- the third call is the only tick
      obtain rfl : early = changed.take 2 := by
        rcases early with _ | ⟨_, _ | ⟨_, _ | ⟨_, _⟩⟩⟩ <;> simp_all [changed]
      cases side with
      | player => exact ⟨⟨true, false⟩, rfl, rfl⟩
      | enemy => exact ⟨.ofRuleset {}, rfl, rfl⟩
    have asked : b.rollsAll changed = 3 := by decide +kernel
    have attacks : ((b.plays changed).1.flatten.filterMap Event.attacker?).countP
        (PerSide.get ⟨false, true⟩) = 0 := by decide +kernel
    have drawn := builtIn b ⟨false, true⟩ changed ticks
    rw [asked, attacks] at drawn
    exact ⟨ticks, drawn⟩

end Masquerade
