import Masquerade.Proofs.Battle.Exchange

/-!
# The course of a battle

From outside a battle is used by calls: starts, ticks, stops and changes of its pipelines. A `Course`
is a battle with all the events that it has emitted since the last start that succeeded. What a call
keeps, every sequence of calls keeps (`calls_induction`); outside a fight nothing is emitted until a
start succeeds (`calls_quiet`).
-/

namespace Masquerade

variable {σ : Type}

/-- A call to a battle. -/
inductive Call (σ : Type) where
  | start (setup : BattleSetup)
  | tick (dt : Float32)
  | stop
  | addStep (side : Side) (step : Step σ)
  | setFinalizer (side : Side) (step : Step σ)

namespace Battle

/-- The events that a call emits, and the battle after it. A start or a step that is refused changes
nothing. -/
def call (b : Battle σ) : Call σ → List Event × Battle σ
  | .start setup =>
    match b.start setup with
    | .ok (events, b) => (events, b)
    | .error _ => ([], b)
  | .tick dt => b.tick dt
  | .stop => ([], b.stop)
  | .addStep side step => ([], (b.addStep? side step).getD b)
  | .setFinalizer side step => ([], b.setFinalizer side step)

/-- Whether a call is a start that succeeds. -/
def starts (b : Battle σ) : Call σ → Bool
  | .start setup => (b.start setup).toBool
  | _ => false

/-- What a call can do: start a fight, move one on, stop one, or do nothing. -/
inductive Reaction (b : Battle σ) (x : Call σ) : Prop where
  | started (setup : BattleSetup) (enemy : Profile) (call : x = .start setup)
      (present : setup.enemy = some enemy) (accepted : b.starts x = true)
      (idle : b.isFighting = false)
      (events : (b.call x).1 = [.entered setup.player.name enemy.name, .started])
      (stage : (b.call x).2.stage = .fighting (Fight.opening setup.player enemy setup.forests
        setup.maskCount b.stage.rng b.stage.memory))
  | ticked (dt : Float32) (f : Fight σ) (fighting : b.stage = .fighting f)
      (refused : b.starts x = false) (same : b.call x = b.tick dt)
  | stopped (f : Fight σ) (fighting : b.stage = .fighting f) (refused : b.starts x = false)
      (events : (b.call x).1 = []) (stage : (b.call x).2.stage = .ended f none)
  | unchanged (refused : b.starts x = false) (events : (b.call x).1 = [])
      (stage : (b.call x).2.stage = b.stage)

theorem call_of_refused {b : Battle σ} {setup : BattleSetup} (refused : b.starts (.start setup) = false) :
    b.call (.start setup) = ([], b) := by
  rw [call]
  rw [starts] at refused
  cases hs : b.start setup with
  | error e => rfl
  | ok out =>
    rw [hs] at refused
    cases refused

theorem reaction_start (b : Battle σ) (setup : BattleSetup) : b.Reaction (.start setup) := by
  cases hs : b.start setup with
  | error e =>
    have silent : b.call (.start setup) = ([], b) := by rw [call, hs]
    refine .unchanged ?_ (by rw [silent]) (by rw [silent])
    rw [starts, hs]
    rfl
  | ok out =>
    have told : b.call (.start setup) = out := by rw [call, hs]
    have accepted : b.starts (.start setup) = true := by
      rw [starts, hs]
      rfl
    -- a fight under way and a missing enemy are refused, and so only the third case is left
    rw [start] at hs
    split at hs
    · cases hs
    · cases hs
    · next enemy present hstage =>
      cases hs
      refine .started setup enemy rfl present accepted ?_ (by rw [told]) (by rw [told])
      cases hb : b.stage with
      | fighting f => exact absurd hb (hstage f)
      | idle | ended => simp [isFighting, hb]

theorem addStep?_getD_stage (b : Battle σ) (side : Side) (step : Step σ) :
    ((b.addStep? side step).getD b).stage = b.stage := by
  rw [addStep?]
  cases (b.arena.pipelines.get side).addStep? step <;> rfl

/-- Every call starts a fight, moves one on, stops one or does nothing. -/
theorem reaction (b : Battle σ) (x : Call σ) : b.Reaction x := by
  cases x with
  | start setup => exact b.reaction_start setup
  | tick dt =>
    cases hb : b.stage with
    | fighting f => exact .ticked dt f hb rfl rfl
    | idle | ended =>
      have silent : b.call (.tick dt) = ([], b) := by simp only [call, tick, hb]
      exact .unchanged rfl (by rw [silent]) (by rw [silent])
  | stop =>
    cases hb : b.stage with
    | fighting f => exact .stopped f hb rfl rfl (by simp only [call, stop, hb])
    | idle | ended =>
      have silent : b.call .stop = ([], b) := by simp only [call, stop, hb]
      exact .unchanged rfl (by rw [silent]) (by rw [silent])
  | addStep side step => exact .unchanged rfl rfl (b.addStep?_getD_stage side step)
  | setFinalizer side step => exact .unchanged rfl rfl rfl

theorem stop_isFighting (b : Battle σ) : b.stop.isFighting = false := by
  cases hb : b.stage with
  | fighting f => simp [stop, isFighting, hb]
  | idle | ended => simp [stop, isFighting, hb]

/-- Outside a fight, a call that is no successful start emits nothing and begins no fight. -/
theorem call_quiet {b : Battle σ} (h : b.isFighting = false) {x : Call σ}
    (hx : b.starts x = false) : (b.call x).1 = [] ∧ (b.call x).2.isFighting = false := by
  cases b.reaction x with
  | started setup enemy call present accepted => simp [hx] at accepted
  | ticked dt f fighting => simp [isFighting, fighting] at h
  | stopped f fighting => simp [isFighting, fighting] at h
  | unchanged refused events stage =>
    refine ⟨events, ?_⟩
    rw [isFighting, stage]
    exact h

end Battle

/-- A battle, and the events that it has emitted since the last start that succeeded. -/
structure Course (σ : Type) where
  battle : Battle σ
  log : List Event

namespace Course

/-- A battle before its first call. -/
def new (ruleset : Ruleset) (memory : σ) : Course σ := ⟨.new ruleset memory, []⟩

/-- One more call. A start that succeeds begins a new log. -/
def call (c : Course σ) (x : Call σ) : Course σ where
  battle := (c.battle.call x).2
  log := if c.battle.starts x then (c.battle.call x).1 else c.log ++ (c.battle.call x).1

/-- Calls one after the other. -/
def calls (c : Course σ) (xs : List (Call σ)) : Course σ := xs.foldl call c

@[simp] theorem calls_nil (c : Course σ) : c.calls [] = c :=
  rfl

@[simp] theorem calls_cons (c : Course σ) (x : Call σ) (xs : List (Call σ)) :
    c.calls (x :: xs) = (c.call x).calls xs :=
  rfl

/-- What every call keeps, every sequence of calls keeps. -/
theorem calls_induction {P : Course σ → Prop} (step : ∀ c x, P c → P (c.call x)) {c : Course σ}
    (h : P c) (xs : List (Call σ)) : P (c.calls xs) := by
  induction xs generalizing c with
  | nil => exact h
  | cons x rest ih => exact ih (step c x h)

/-- Outside a fight nothing is emitted until a start succeeds. -/
theorem calls_quiet {c : Course σ} (h : c.battle.isFighting = false) (xs : List (Call σ))
    (hx : ∀ early x rest, xs = early ++ x :: rest →
      (c.calls early).battle.starts x = false) :
    (c.calls xs).log = c.log ∧ (c.calls xs).battle.isFighting = false := by
  induction xs generalizing c with
  | nil => exact ⟨rfl, h⟩
  | cons x rest ih =>
    have refused : c.battle.starts x = false := hx [] x rest rfl
    obtain ⟨silent, idle⟩ := Battle.call_quiet h refused
    have log : (c.call x).log = c.log := by simp [call, refused, silent]
    rw [calls_cons, ← log]
    refine ih idle fun early y later hrest => ?_
    exact hx (x :: early) y later (by rw [hrest]; rfl)

end Course

end Masquerade
