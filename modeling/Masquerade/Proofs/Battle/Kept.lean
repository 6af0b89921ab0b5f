import Masquerade.Proofs.Battle.Course
import Masquerade.Proofs.Battle.Restart

/-!
# What a fight keeps

A fight goes on in three ways: time passes, a side that is ready attacks, and the end is reached. What
holds of a fight and of the events since its start, and is broken by none of the three (`Fight.Kept`), is
kept by every call that starts no other fight (`Kept.calls`). If it holds of every fight that opens, it
holds of every fight (`Kept.courses`).
-/

namespace Masquerade

variable {σ : Type} {arena : Arena σ} {r : Ruleset} {P : Fight σ → List Event → Prop}

/-- What holds of a fight and of the events since its start goes on to hold, whatever the fight does. -/
structure Fight.Kept (r : Ruleset) (P : Fight σ → List Event → Prop) : Prop where
  advance {f : Fight σ} {log : List Event} (dt : Float32) (h : P f log) :
    P (f.advance (timeStep dt)) log
  attack {arena : Arena σ} {f : Fight σ} {log : List Event} {side : Side} (hr : arena.ruleset = r)
    (ready : f.isReady arena side = true) (h : P f log) :
    P (Blow.resolved arena ⟨side, f.spendGauge arena side⟩)
      (log ++ Blow.events arena ⟨side, f.spendGauge arena side⟩)
  close {f : Fight σ} {log : List Event} (h : P f log) :
    P f.closed (log ++ [.ended f.counters.actions, f.closed.outcome.event])

theorem Fight.isReady_eq_true_iff {f : Fight σ} {side : Side} :
    f.isReady arena side = true ↔
      ¬ (f.gauges.get side).value < arena.ruleset.speedThreshold ∧
        ¬ f.clock < (f.gauges.get side).nextAttackAt := by
  simp only [isReady, Bool.not_eq_true', Bool.or_eq_false_iff, decide_eq_false_iff_not]

/-! ## Calls and the fight -/

namespace Battle

theorem elapsed_of_fight {b : Battle σ} {f : Fight σ} (h : b.stage.fight? = some f) :
    b.elapsed = f.clock := by
  rw [elapsed, h]
  rfl

/-- No call changes the tuning. -/
theorem call_ruleset (b : Battle σ) (x : Call σ) : (b.call x).2.arena.ruleset = b.arena.ruleset := by
  cases x with
  | start setup =>
    rw [call, start]
    cases b.stage <;> cases setup.enemy <;> rfl
  | tick dt => exact congrArg Arena.ruleset (b.tick_arena dt)
  | stop => exact congrArg Arena.ruleset b.stop_arena
  | addStep side step =>
    rw [call, addStep?]
    cases (b.arena.pipelines.get side).addStep? step <;> rfl
  | setFinalizer side step => rfl

/-- Whether none of the calls starts a fight. -/
def startsNone (b : Battle σ) : List (Call σ) → Bool
  | [] => true
  | x :: rest => !b.starts x && (b.call x).2.startsNone rest

theorem startsNone_cons {b : Battle σ} {x : Call σ} {rest : List (Call σ)} :
    b.startsNone (x :: rest) = true ↔
      b.starts x = false ∧ (b.call x).2.startsNone rest = true := by
  rw [startsNone, Bool.and_eq_true, Bool.not_eq_true']

/-- No call takes a fight away. -/
theorem call_isSome_fight? {b : Battle σ} (h : b.stage.fight?.isSome = true) (x : Call σ) :
    (b.call x).2.stage.fight?.isSome = true := by
  cases b.reaction x with
  | started _ _ _ _ _ _ _ stage | stopped _ _ _ _ stage =>
    rw [stage]
    rfl
  | ticked dt f fighting _ same =>
    obtain ⟨f', stage, -⟩ := tick_logic fighting dt
    rw [same, stage]
    rfl
  | unchanged _ _ stage => rwa [stage]

end Battle

theorem Course.calls_isSome_fight? {c : Course σ} (h : c.battle.stage.fight?.isSome = true)
    (xs : List (Call σ)) : (c.calls xs).battle.stage.fight?.isSome = true :=
  Course.calls_induction (P := fun c => c.battle.stage.fight?.isSome = true)
    (fun _ x h => Battle.call_isSome_fight? h x) h xs

/-- A start that succeeds opens a fight and begins the log with its first two events. -/
theorem Course.exists_opening {c : Course σ} {x : Call σ} (accepted : c.battle.starts x = true) :
    ∃ setup enemy, x = .start setup ∧ setup.enemy = some enemy ∧
      (c.call x).log = [.entered setup.player.name enemy.name, .started] ∧
      (c.call x).battle.stage = .fighting (Fight.opening setup.player enemy setup.forests
        setup.maskCount c.battle.stage.rng c.battle.stage.memory) := by
  have log : (c.call x).log = (c.battle.call x).1 := if_pos accepted
  rw [log]
  cases c.battle.reaction x with
  | started setup enemy call present _ _ events stage =>
    exact ⟨setup, enemy, call, present, events, stage⟩
  | ticked _ _ _ refused | stopped _ _ refused | unchanged refused =>
    exact absurd accepted (Bool.eq_false_iff.1 refused)

/-- The fight of the course, if there is one, has the property together with the log. -/
structure Course.Holds (r : Ruleset) (P : Fight σ → List Event → Prop) (c : Course σ) : Prop where
  ruleset : c.battle.arena.ruleset = r
  fight : ∀ f, c.battle.stage.fight? = some f → P f c.log

namespace Fight.Kept

theorem exchange (kept : Kept r P) (hr : arena.ruleset = r) {f : Fight σ} {blows : List (Blow σ)}
    (h : Exchange arena f blows) {log : List Event} (hf : P f log) :
    P (f.after arena blows) (log ++ blows.flatMap (·.events arena)) := by
  -- on the attacks; what one keeps goes to the rest, with its own events in the log
  induction h generalizing log with
  | still f => simpa using hf
  | @blow f side rest undecided ready later ih =>
    rw [after_cons, List.flatMap_cons, ← List.append_assoc]
    exact ih (kept.attack hr ready hf)

theorem stage (kept : Kept r P) {f : Fight σ} {log : List Event} (hf : P f log) :
    ∃ f', f.stage.fight? = some f' ∧ P f' (log ++ f.closing.map (·.1)) := by
  by_cases decided : f.combatants.isDecided = true
  · rw [Fight.stage, closing, if_pos decided, if_pos decided]
    exact ⟨f.closed, rfl, kept.close hf⟩
  · rw [Bool.not_eq_true] at decided
    rw [stage_of_undecided decided, closing_of_undecided decided]
    exact ⟨f, rfl, by simpa using hf⟩

theorem tick (kept : Kept r P) {b : Battle σ} (hr : b.arena.ruleset = r) {f : Fight σ}
    (hb : b.stage = .fighting f) {log : List Event} (hf : P f log) (dt : Float32) :
    ∃ f', (b.tick dt).2.stage.fight? = some f' ∧ P f' (log ++ (b.tick dt).1) := by
  have started : P (f.tickStart dt) log := by
    rw [tickStart]
    split
    · exact hf
    · exact kept.advance dt hf
  rw [Battle.tick_fighting hb, tickTold, List.map_append, List.map_flatMap, ← List.append_assoc]
  exact kept.stage (kept.exchange hr (f.tickBlows_exchange b.arena dt) started)

theorem call (kept : Kept r P) {c : Course σ} (h : c.Holds r P) {x : Call σ}
    (refused : c.battle.starts x = false) : (c.call x).Holds r P := by
  refine ⟨(c.battle.call_ruleset x).trans h.ruleset, fun f hf => ?_⟩
  change (c.battle.call x).2.stage.fight? = some f at hf
  show P f (if c.battle.starts x then _ else _)
  rw [refused, if_neg Bool.false_ne_true]
  cases c.battle.reaction x with
  | started setup enemy call present accepted => exact absurd accepted (Bool.eq_false_iff.1 refused)
  | ticked dt g fighting _ same =>
    obtain ⟨f', stage, kept⟩ := kept.tick h.ruleset fighting (h.fight g (by rw [fighting]; rfl)) dt
    rw [same] at hf ⊢
    obtain rfl : f' = f := Option.some.inj (stage.symm.trans hf)
    exact kept
  | stopped g fighting _ events stage =>
    -- a battle that is stopped ends with its fight as it was
    rw [stage] at hf
    cases hf
    rw [events, List.append_nil]
    exact h.fight f (by rw [fighting]; rfl)
  | unchanged _ events stage =>
    rw [stage] at hf
    rw [events, List.append_nil]
    exact h.fight f hf

/-- What a fight keeps holds after any calls that start no other. -/
theorem calls (kept : Kept r P) {c : Course σ} (h : c.Holds r P) {xs : List (Call σ)}
    (none : c.battle.startsNone xs = true) : (c.calls xs).Holds r P := by
  induction xs generalizing c with
  | nil => exact h
  | cons x rest ih =>
    obtain ⟨refused, later⟩ := Battle.startsNone_cons.1 none
    exact ih (kept.call h refused) later

theorem calls_fight (kept : Kept r P) {c : Course σ} (hr : c.battle.arena.ruleset = r) {f : Fight σ}
    (hf : c.battle.stage.fight? = some f) (h : P f c.log) {xs : List (Call σ)}
    (none : c.battle.startsNone xs = true) :
    ∃ f', (c.calls xs).battle.stage.fight? = some f' ∧ P f' (c.calls xs).log := by
  have held : c.Holds r P := ⟨hr, fun g hg => by
    obtain rfl : f = g := Option.some.inj (hf.symm.trans hg)
    exact h⟩
  obtain ⟨f', stage⟩ :=
    Option.isSome_iff_exists.1 (Course.calls_isSome_fight? (by rw [hf]; rfl) xs)
  exact ⟨f', stage, (kept.calls held none).fight f' stage⟩

/-- What a fight keeps, and what holds of every fight that opens, holds after any calls. -/
theorem courses (kept : Kept r P)
    (opens : ∀ player enemy forests maskCount rng memory,
      P (opening player enemy forests maskCount rng memory) [.entered player.name enemy.name, .started])
    (memory : σ) (xs : List (Call σ)) : ((Course.new r memory).calls xs).Holds r P := by
  refine Course.calls_induction (fun c x h => ?_) ⟨rfl, fun f hf => by cases hf⟩ xs
  cases accepted : c.battle.starts x with
  | false => exact kept.call h accepted
  | true =>
    -- the fight before and its log are gone
    obtain ⟨setup, enemy, -, -, log, stage⟩ := Course.exists_opening accepted
    refine ⟨(c.battle.call_ruleset x).trans h.ruleset, fun f hf => ?_⟩
    rw [stage] at hf
    cases hf
    rw [log]
    exact opens ..

end Fight.Kept

end Masquerade
