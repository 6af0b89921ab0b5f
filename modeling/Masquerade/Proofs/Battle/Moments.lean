import Masquerade.Proofs.Battle.Course
import Masquerade.Proofs.Logic.Reset

/-!
# The moments of a battle

A fight walks its forests at its start, twice in every attack and at its end. A `Diary` is a battle with
all these moments since the last start that succeeded. No moment is missing from it: the forests in
play are those of the start after walks at exactly these moments (`Diary.calls_complete`).
-/

namespace Masquerade

open RandomWords (Stream)

variable {σ : Type} {arena : Arena σ}

/-! ## Walks at given moments -/

/-- The forests go over into others by walks at the given moments, one after the other. Targets and
random words of each walk are open. -/
inductive Forest.Walked : List Forest → List Moment → List Forest → Prop
  | still (Fs : List Forest) : Walked Fs [] Fs
  | walk {Fs Gs : List Forest} {m : Moment} {rest : List Moment} (targets : Targets) (rng : Stream)
      (later : Walked (Forest.runAll Fs m targets rng).1 rest Gs) : Walked Fs (m :: rest) Gs

theorem Forest.Walked.append {Fs Gs Hs : List Forest} {ms more : List Moment}
    (h : Walked Fs ms Gs) (h' : Walked Gs more Hs) : Walked Fs (ms ++ more) Hs := by
  induction h with
  | still Fs => exact h'
  | walk targets rng later ih => exact .walk targets rng (ih h')

theorem Fight.traverse_walked (f : Fight σ) (m : Moment) (a : Option Attack) :
    Forest.Walked f.forests [m] (f.traverse m a).1.forests :=
  .walk { attack := a, combatants := some f.combatants } f.rng (.still _)

/-! ## Attacks and ticks -/

/-- The moments of an attack: while it is being built, and when its damage is dealt. -/
def Blow.moments (arena : Arena σ) (b : Blow σ) : List Moment :=
  [b.fight.attackMoment .attackModify b.side b.built 0,
    (b.struck arena).attackMoment .damageApplied b.side (b.settled arena) (b.settled arena).damage]

theorem Blow.walked (b : Blow σ) :
    Forest.Walked b.fight.forests (b.moments arena) (b.resolved arena).forests := by
  have modified := b.fight.traverse_walked
    (b.fight.attackMoment .attackModify b.side b.built 0) (some b.built)
  have applied := (b.struck arena).traverse_walked
    ((b.struck arena).attackMoment .damageApplied b.side (b.settled arena) (b.settled arena).damage)
    none
  exact modified.append applied

theorem Exchange.walked {f : Fight σ} {blows : List (Blow σ)} (h : Exchange arena f blows) :
    Forest.Walked f.forests (blows.flatMap (·.moments arena)) (f.after arena blows).forests := by
  induction h with
  | still f => exact .still f.forests
  | @blow f side rest undecided ready later ih =>
    exact (Blow.walked ⟨side, f.spendGauge arena side⟩).append ih

namespace Fight

/-- The moment at which a fight opens, before anything is counted. -/
def openingMoment (maskCount : UInt32) : Moment where
  phase := .battleStart
  hits := some (.both 0)
  maskCount := maskCount

/-- The moments with which a tick ends whose attacks have led to `f`. -/
def closingMoments (f : Fight σ) : List Moment :=
  if f.combatants.isDecided then [f.moment .battleEnd f.counters.actions] else []

def tickMoments (arena : Arena σ) (f : Fight σ) (dt : Float32) : List Moment :=
  (f.tickBlows arena dt).flatMap (·.moments arena) ++ (f.tickEnd arena dt).closingMoments

theorem opening_walked (player enemy : Profile) (forests : List Forest) (maskCount : UInt32)
    (rng : Stream) (memory : σ) :
    Forest.Walked (forests.map Forest.reset) [openingMoment maskCount]
      (opening player enemy forests maskCount rng memory).forests :=
  .walk { combatants := some ⟨.ofProfile player, .ofProfile enemy⟩ } rng (.still _)

theorem stage_walked (f : Fight σ) :
    ∃ f', f.stage.fight? = some f' ∧ Forest.Walked f.forests f.closingMoments f'.forests := by
  rw [stage, closingMoments]
  split
  · exact ⟨f.closed, rfl, f.traverse_walked _ none⟩
  · exact ⟨f, rfl, .still f.forests⟩

end Fight

/-! ## Calls -/

namespace Battle

/-- The moments at which a call walks the forests. -/
def moments (b : Battle σ) : Call σ → List Moment
  | .start setup => if b.starts (.start setup) then [Fight.openingMoment setup.maskCount] else []
  | .tick dt =>
    match b.stage with
    | .fighting f => f.tickMoments b.arena dt
    | _ => []
  | .stop | .addStep _ _ | .setFinalizer _ _ => []

/-- What a call can do, told with the moments at which it walks the forests: open a fight, move one on,
or leave the fight and its outcome as they are. -/
inductive Walk (b : Battle σ) (x : Call σ) : Prop where
  | opened (setup : BattleSetup) (enemy : Profile) (accepted : b.starts x = true)
      (moments : b.moments x = [Fight.openingMoment setup.maskCount])
      (stage : (b.call x).2.stage = .fighting (Fight.opening setup.player enemy setup.forests
        setup.maskCount b.stage.rng b.stage.memory))
  | ticked (dt : Float32) (f : Fight σ) (fighting : b.stage = .fighting f)
      (refused : b.starts x = false) (same : b.call x = b.tick dt)
      (moments : b.moments x = f.tickMoments b.arena dt)
  | rested (refused : b.starts x = false) (moments : b.moments x = [])
      (fight : (b.call x).2.stage.fight? = b.stage.fight?)
      (outcome : (b.call x).2.stage.outcome? = b.stage.outcome?)

theorem walk_start (b : Battle σ) (setup : BattleSetup) : b.Walk (.start setup) := by
  cases hs : b.start setup with
  | error e =>
    have refused : b.starts (.start setup) = false := by
      rw [starts, hs]
      rfl
    have same : b.call (.start setup) = ([], b) := by rw [call, hs]
    exact .rested refused (by simp [moments, refused]) (by rw [same]) (by rw [same])
  | ok out =>
    have accepted : b.starts (.start setup) = true := by
      rw [starts, hs]
      rfl
    cases b.reaction_start setup with
    | started setup' enemy call present accepted idle events stage =>
      cases call
      exact .opened setup enemy accepted (by rw [moments, if_pos accepted]) stage
    | ticked _ _ _ refused | stopped _ _ refused | unchanged refused => simp [accepted] at refused

theorem walk (b : Battle σ) (x : Call σ) : b.Walk x := by
  cases x with
  | start setup => exact b.walk_start setup
  | tick dt =>
    cases hb : b.stage with
    | fighting f => exact .ticked dt f hb rfl rfl (by rw [moments, hb])
    | idle | ended =>
      have same : b.call (.tick dt) = ([], b) := by simp only [call, tick, hb]
      exact .rested rfl (by rw [moments, hb]) (by rw [same]) (by rw [same])
  | stop =>
    cases hb : b.stage with
    | idle | fighting | ended =>
      refine .rested rfl rfl ?_ ?_ <;> simp [call, stop, hb, Stage.fight?, Stage.outcome?]
  | addStep side step =>
    have same := b.addStep?_getD_stage side step
    exact .rested rfl rfl (congrArg Stage.fight? same) (congrArg Stage.outcome? same)
  | setFinalizer side step => exact .rested rfl rfl rfl rfl

theorem tick_walked {b : Battle σ} {f : Fight σ} (hb : b.stage = .fighting f) (dt : Float32) :
    ∃ f', (b.tick dt).2.stage.fight? = some f' ∧
      Forest.Walked f.forests (f.tickMoments b.arena dt) f'.forests := by
  rw [tick_fighting hb]
  obtain ⟨f', stage, closed⟩ := (f.tickEnd b.arena dt).stage_walked
  have start : (f.tickStart dt).forests = f.forests := by
    rw [Fight.tickStart]
    split <;> rfl
  refine ⟨f', stage, Forest.Walked.append ?_ closed⟩
  rw [← start]
  exact (f.tickBlows_exchange b.arena dt).walked

end Battle

/-! ## Diaries -/

/-- A battle, and the moments at which it has walked its forests since the last start that succeeded. -/
structure Diary (σ : Type) where
  battle : Battle σ
  moments : List Moment

namespace Diary

def new (ruleset : Ruleset) (memory : σ) : Diary σ := ⟨.new ruleset memory, []⟩

/-- One more call. A start that succeeds begins a new diary. -/
def call (d : Diary σ) (x : Call σ) : Diary σ where
  battle := (d.battle.call x).2
  moments := if d.battle.starts x then d.battle.moments x else d.moments ++ d.battle.moments x

def calls (d : Diary σ) (xs : List (Call σ)) : Diary σ := xs.foldl call d

theorem calls_induction {P : Diary σ → Prop} (step : ∀ d x, P d → P (d.call x)) {d : Diary σ}
    (h : P d) (xs : List (Call σ)) : P (d.calls xs) := by
  induction xs generalizing d with
  | nil => exact h
  | cons x rest ih => exact ih (step d x h)

/-- The forests in play have come from forests in which nothing was counted, by walks at the moments of
the diary. -/
def Complete (d : Diary σ) : Prop :=
  ∀ f, d.battle.stage.fight? = some f →
    ∃ Fs, (∀ F ∈ Fs, F.Fresh) ∧ Forest.Walked Fs d.moments f.forests

theorem Complete.call {d : Diary σ} (h : d.Complete) (x : Call σ) : (d.call x).Complete := by
  intro f hf
  change (d.battle.call x).2.stage.fight? = some f at hf
  cases d.battle.walk x with
  | opened setup enemy accepted moments stage =>
    rw [stage] at hf
    cases hf
    rw [Diary.call, accepted, moments]
    refine ⟨setup.forests.map Forest.reset, fun F hF => ?_, Fight.opening_walked ..⟩
    obtain ⟨G, -, rfl⟩ := List.mem_map.1 hF
    exact G.fresh_reset
  | ticked dt g fighting refused same moments =>
    obtain ⟨f', stage, walked⟩ := Battle.tick_walked fighting dt
    obtain ⟨Fs, fresh, before⟩ := h g (congrArg Stage.fight? fighting)
    obtain rfl : f' = f := by
      rw [same, stage] at hf
      exact Option.some.inj hf
    rw [Diary.call, refused, moments]
    exact ⟨Fs, fresh, before.append walked⟩
  | rested refused moments fight outcome =>
    rw [fight] at hf
    obtain ⟨Fs, fresh, before⟩ := h f hf
    rw [Diary.call, refused, moments]
    exact ⟨Fs, fresh, by simpa using before⟩

/-- No walk is missing from a diary, and none has been added. -/
theorem calls_complete (ruleset : Ruleset) (memory : σ) (calls : List (Call σ)) :
    ((Diary.new ruleset memory).calls calls).Complete := by
  refine calls_induction (fun _ x h => h.call x) ?_ calls
  intro f hf
  cases hf

end Diary

end Masquerade
