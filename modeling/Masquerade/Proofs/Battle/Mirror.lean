import Masquerade.Proofs.Battle.Chronicle
import Masquerade.Proofs.Battle.Restart
import Masquerade.Proofs.Logic.Twins

/-!
# Mirrored battles

Two battles whose forests are twins go the same way: a gate that counts its calls and its match on the
number of the attack are told apart by no event, no report, no random word and no other counter
(`Battle.plays_twins`). What carries this through a battle is that the one counter which differs is a
function of the attacks that have been made so far (`Fight.Mirror`).
-/

namespace Masquerade

open RandomWords (Stream)

variable {σ : Type} (arena : Arena σ) {w : GateSwap} {i k : Nat}

/-! ## Attacks that a side filter counts -/

namespace SideFilter

/-- Whether a side filter lets the attacks of a side through. -/
def covers : SideFilter → Side → Bool
  | both, _ => true
  | player, attacker => attacker = .player
  | enemy, attacker => attacker = .enemy

/-- How many of the given attacks a side filter lets through. -/
def turnsIn (side : SideFilter) (attacks : List AttackRecord) : Nat :=
  attacks.countP fun r => side.covers r.attacker

theorem turnsIn_concat (side : SideFilter) (attacks : List AttackRecord) (r : AttackRecord) :
    side.turnsIn (attacks ++ [r]) =
      side.turnsIn attacks + if side.covers r.attacker then 1 else 0 := by
  simp [turnsIn, List.countP_append, List.countP_singleton]

theorem turnsIn_le (side : SideFilter) (attacks : List AttackRecord) :
    side.turnsIn attacks ≤ attacks.length :=
  List.countP_le_length

end SideFilter

namespace Fight

variable {f g : Fight σ}

@[simp] theorem moment_phase (f : Fight σ) (phase : Phase) (actions : UInt32) :
    (f.moment phase actions).phase = phase :=
  rfl

@[simp] theorem attackMoment_phase (f : Fight σ) (phase : Phase) (side : Side) (a : Attack)
    (damage : Float32) : (f.attackMoment phase side a damage).phase = phase :=
  rfl

theorem admits_attackMoment (f : Fight σ) (side : SideFilter) (attacker : Side) (a : Attack)
    (damage : Float32) :
    side.admits (f.attackMoment .attackModify attacker a damage) = side.covers attacker := by
  cases side <;> cases attacker <;> rfl

theorem turns_attackMoment (f : Fight σ) (side : SideFilter) (attacker : Side) (a : Attack)
    (damage : Float32) :
    side.turns (f.attackMoment .attackModify attacker a damage) =
      if side.covers attacker then 1 else 0 := by
  simp only [SideFilter.turns, admits_attackMoment, attackMoment_phase, true_and]

/-- The next attack has the number after those that a side filter has let through. -/
theorem numbersOn_attackMoment {attacks : List AttackRecord} (hf : f.counters = tally attacks)
    (bound : attacks.length + 1 < UInt32.size) (side : SideFilter) (attacker : Side) (a : Attack)
    (damage : Float32) :
    side.NumbersOn (side.turnsIn attacks) (f.attackMoment .attackModify attacker a damage) := by
  intro _ admitted
  rw [admits_attackMoment] at admitted
  have few := side.turnsIn_le attacks
  have next : side.numberOf (f.attackMoment .attackModify attacker a damage) =
      UInt32.ofNat (side.turnsIn attacks) + 1 := by
    cases side with
    | both =>
      have all : SideFilter.both.turnsIn attacks = attacks.length :=
        List.countP_eq_length.2 fun _ _ => rfl
      show f.counters.actions + 1 = _
      rw [hf, all]
      rfl
    | player | enemy =>
      obtain rfl := of_decide_eq_true admitted
      show f.counters.attacks.get _ + 1 = _
      rw [hf]
      rfl
  refine ⟨by omega, ?_⟩
  rw [next, UInt32.ofNat_add]
  rfl

/-! ## Fights with twins in play -/

/-- Two fights that are the same but for twins among their forests. -/
inductive Alike (w : GateSwap) (i k : Nat) (f : Fight σ) : Fight σ → Prop
  | intro {forests : List Forest} (twins : Forest.TwinsIn w k i f.forests forests) :
      Alike w i k f { f with forests := forests }

/-- Two fights that are alike after the given attacks. -/
structure Mirror (w : GateSwap) (i : Nat) (attacks : List AttackRecord) (f g : Fight σ) : Prop where
  alike : Alike w i (w.side.turnsIn attacks) f g
  counters : f.counters = tally attacks

namespace Alike

theorem traverse (h : Alike w i k f g) {m : Moment} (inert : m.phase ≠ .description)
    (number : w.side.NumbersOn k m) (a : Option Attack) :
    Alike w i (k + w.side.turns m) (f.traverse m a).1 (g.traverse m a).1 ∧
      (g.traverse m a).2 = (f.traverse m a).2 := by
  cases h with
  | intro twins =>
    obtain ⟨after, same⟩ := twins.runAll inert number
      { attack := a, combatants := some f.combatants } f.rng
    obtain ⟨targets, rng⟩ := Prod.ext_iff.1 same
    refine ⟨?_, congrArg Targets.attack targets⟩
    simp only [Fight.traverse, targets, rng]
    exact .intro after

/-- Outside the building of attacks no counter of twins changes what it says of the attacks. -/
theorem traverse_outside (h : Alike w i k f g) {m : Moment} (inert : m.phase ≠ .description)
    (outside : m.phase ≠ .attackModify) (a : Option Attack) :
    Alike w i k (f.traverse m a).1 (g.traverse m a).1 := by
  have turns : w.side.turns m = 0 := by simp [SideFilter.turns, outside]
  have walked := (h.traverse inert (fun attack => absurd attack outside) a).1
  rwa [turns] at walked

theorem same (h : Alike w i k f g) :
    g.combatants = f.combatants ∧ g.maskCount = f.maskCount ∧ g.counters = f.counters ∧
      g.rng = f.rng ∧ g.memory = f.memory := by
  cases h with
  | intro twins => exact ⟨rfl, rfl, rfl, rfl, rfl⟩

theorem attackMoment (h : Alike w i k f g) (phase : Phase) (side : Side) (a : Attack)
    (damage : Float32) :
    g.attackMoment phase side a damage = f.attackMoment phase side a damage := by
  cases h with
  | intro twins => rfl

theorem after_strike (h : Alike w i k f g) (combatants : PerSide Combatant) (rng : Stream)
    (memory : σ) :
    Alike w i k { f with combatants := combatants, rng := rng, memory := memory }
      { g with combatants := combatants, rng := rng, memory := memory } := by
  cases h with
  | intro twins => exact .intro twins

theorem record (h : Alike w i k f g) (side : Side) :
    Alike w i k { f with counters := f.counters.record side }
      { g with counters := g.counters.record side } := by
  cases h with
  | intro twins => exact .intro twins

end Alike

end Fight

/-! ## Attacks -/

section Attacks

variable {b c : Blow σ}

/-- Up to the pipeline, an attack in fights that are alike is the same, and leaves them alike. -/
theorem Blow.announced_alike {attacks : List AttackRecord}
    (h : Fight.Mirror w i attacks b.fight c.fight) (side : c.side = b.side)
    (bound : attacks.length + 1 < UInt32.size) :
    Fight.Alike w i (w.side.turnsIn (attacks ++ [b.record arena])) b.announced c.announced ∧
      c.modified = b.modified ∧ c.number = b.number := by
  obtain ⟨combatants, -, counters, -⟩ := h.alike.same
  have built : c.built = b.built := by rw [Blow.built, Blow.built, combatants, side]
  have moment : c.fight.attackMoment .attackModify c.side c.built 0 =
      b.fight.attackMoment .attackModify b.side b.built 0 := by
    rw [side, built]
    exact h.alike.attackMoment _ _ _ _
  have number := b.fight.numbersOn_attackMoment h.counters bound w.side b.side b.built 0
  have turns := w.side.turnsIn_concat attacks (b.record arena)
  obtain ⟨announced, modified⟩ := h.alike.traverse (by simp) number (some b.built)
  rw [b.fight.turns_attackMoment] at announced
  -- the effects on the attack are walked at the same moment, with the same attack
  have modifying : c.modifying =
      c.fight.traverse (b.fight.attackMoment .attackModify b.side b.built 0) (some b.built) := by
    rw [Blow.modifying, moment, built]
  refine ⟨?_, ?_, ?_⟩
  · have after := congrArg Prod.fst modifying
    rw [turns, Blow.announced, Blow.announced, after]
    exact announced
  · rw [Blow.modified, modifying, modified, built]
    rfl
  · rw [Blow.number, Blow.number, counters]

theorem Blow.struck_alike (announced : Fight.Alike w i k b.announced c.announced)
    (side : c.side = b.side) (modified : c.modified = b.modified) :
    Fight.Alike w i k (b.struck arena) (c.struck arena) ∧ c.settled arena = b.settled arena := by
  obtain ⟨combatants, -, -, rng, memory⟩ := announced.same
  have strike : c.strike arena = b.strike arena := by
    rw [Blow.strike, Blow.strike, side, modified, combatants, rng, memory]
  have settled : c.settled arena = b.settled arena := congrArg Strike.attack strike
  refine ⟨?_, settled⟩
  have after := announced.after_strike (b.struck arena).combatants (b.strike arena).rng
    (b.strike arena).memory
  have struck : c.struck arena = { c.announced with
      combatants := (b.struck arena).combatants
      rng := (b.strike arena).rng
      memory := (b.strike arena).memory } := by
    simp only [Blow.struck, Blow.judged, settled, strike, side, combatants]
  rw [struck]
  exact after

/-- An attack in fights that are alike has the same events in both, and leaves them alike. -/
theorem Blow.mirror {attacks : List AttackRecord}
    (h : Fight.Mirror w i attacks b.fight c.fight) (side : c.side = b.side)
    (bound : attacks.length + 1 < UInt32.size) :
    c.events arena = b.events arena ∧
      Fight.Mirror w i (attacks ++ [b.record arena]) (b.resolved arena) (c.resolved arena) := by
  obtain ⟨announced, modified, number⟩ := Blow.announced_alike arena h side bound
  obtain ⟨struck, settled⟩ := Blow.struck_alike arena announced side modified
  have hp : c.defenderHp arena = b.defenderHp arena := by
    rw [Blow.defenderHp, Blow.defenderHp, struck.same.1, side]
  refine ⟨?_, ?_, ?_⟩
  · simp only [Blow.events, Blow.told, List.map_cons, List.map_nil, side, modified, settled, number,
      hp]
  · let m := (b.struck arena).attackMoment .damageApplied b.side (b.settled arena)
      (b.settled arena).damage
    have moment : (c.struck arena).attackMoment .damageApplied b.side (c.settled arena)
        (c.settled arena).damage = m := by
      rw [settled]
      exact struck.attackMoment _ _ _ _
    have later : Fight.Alike w i _ ((b.struck arena).traverse m none).1
        ((c.struck arena).traverse m none).1 := struck.traverse_outside (by simp [m]) (by simp [m]) none
    have resolved : c.resolved arena = { ((c.struck arena).traverse m none).1 with
        counters := ((c.struck arena).traverse m none).1.counters.record b.side } := by
      rw [Blow.resolved]
      simp only [side, moment]
    rw [resolved]
    exact later.record b.side
  · rw [tally_concat, ← h.counters]
    rfl

end Attacks

/-! ## Ticks -/

/-- Two stages of a battle with fights that are alike, and with the same outcome. -/
inductive Stage.Mirror (w : GateSwap) (i : Nat) (attacks : List AttackRecord) :
    Stage σ → Stage σ → Prop
  | fighting {f g : Fight σ} (h : Fight.Mirror w i attacks f g) :
      Mirror w i attacks (.fighting f) (.fighting g)
  | ended {f g : Fight σ} (h : Fight.Mirror w i attacks f g) (outcome : Option Outcome) :
      Mirror w i attacks (.ended f outcome) (.ended g outcome)

def Event.isAttack : Event → Bool
  | .beforeAttack _ _ _ => true
  | _ => false

/-- How many attacks the events tell of. -/
def attackCount (events : List Event) : Nat := events.countP Event.isAttack

/-- Two answers with the same events, after which a relation holds for the attacks that these tell of. -/
def Mirrored {α : Type} (R : List AttackRecord → α → α → Prop) (attacks : List AttackRecord)
    (x y : List Event × α) : Prop :=
  y.1 = x.1 ∧ ∃ more : List AttackRecord, more.length = attackCount x.1 ∧ R (attacks ++ more) x.2 y.2

theorem Mirrored.still {α : Type} {R : List AttackRecord → α → α → Prop}
    {attacks : List AttackRecord} {s t : α} (h : R attacks s t) {events : List Event}
    (peaceful : attackCount events = 0) : Mirrored R attacks (events, s) (events, t) :=
  ⟨rfl, [], peaceful.symm, by rwa [List.append_nil]⟩

theorem attackCount_append (first later : List Event) :
    attackCount (first ++ later) = attackCount first + attackCount later :=
  List.countP_append

theorem Blow.attackCount_events (b : Blow σ) : attackCount (b.events arena) = 1 :=
  rfl

theorem Fight.attackCount_conclude (f : Fight σ) : attackCount f.conclude.1 = 0 := by
  show attackCount [.ended _, Outcome.event _] = 0
  generalize Fight.outcome _ = outcome
  cases outcome <;> rfl

/-- The turn of a side that is ready: its attack, and then the end of the fight or the turns of the
other sides. -/
theorem Fight.attackInTurn_ready {f : Fight σ} {side : Side} (ready : f.isReady arena side = true)
    (rest : List Side) :
    let b : Blow σ := ⟨side, f.spendGauge arena side⟩
    let next := if (b.resolved arena).combatants.isDecided then (b.resolved arena).conclude
      else (b.resolved arena).attackInTurn arena rest
    f.attackInTurn arena (side :: rest) = (b.events arena ++ next.1, next.2) := by
  rw [attackInTurn, if_pos ready]
  rfl

namespace Fight.Mirror

variable {f g : Fight σ} {attacks : List AttackRecord}

theorem spendGauge (h : Mirror w i attacks f g) (side : Side) :
    Mirror w i attacks (f.spendGauge arena side) (g.spendGauge arena side) := by
  obtain ⟨alike, counters⟩ := h
  cases alike with
  | intro twins => exact ⟨.intro twins, counters⟩

theorem advance (h : Mirror w i attacks f g) (dt : Float32) :
    Mirror w i attacks (f.advance dt) (g.advance dt) := by
  obtain ⟨alike, counters⟩ := h
  cases alike with
  | intro twins => exact ⟨.intro twins, counters⟩

theorem isReady (h : Mirror w i attacks f g) (side : Side) :
    g.isReady arena side = f.isReady arena side := by
  obtain ⟨alike, -⟩ := h
  cases alike with
  | intro twins => rfl

/-- The end of fights that are alike is told by the same events, and leaves them alike. -/
theorem conclude (h : Mirror w i attacks f g) : Mirrored (Stage.Mirror w i) attacks f.conclude g.conclude := by
  let m := f.moment .battleEnd f.counters.actions
  obtain ⟨-, maskCount, counters, -⟩ := h.alike.same
  have moment : g.moment .battleEnd g.counters.actions = m := by
    simp only [m, Fight.moment, counters, maskCount]
  have closed : Alike w i _ (f.traverse m none).1 (g.traverse m none).1 :=
    h.alike.traverse_outside (by simp [m]) (by simp [m]) none
  have outcome : (g.traverse m none).1.outcome = (f.traverse m none).1.outcome := by
    rw [Fight.outcome, Fight.outcome, closed.same.1]
  have concluded : g.conclude = ([.ended f.counters.actions, (f.traverse m none).1.outcome.event],
      .ended (g.traverse m none).1 (some (f.traverse m none).1.outcome)) := by
    rw [← outcome, ← counters, ← moment]
    rfl
  rw [concluded]
  exact .still (.ended ⟨closed, h.counters⟩ _) f.attackCount_conclude

/-- The sides in turn do the same in fights that are alike. -/
theorem attackInTurn (h : Mirror w i attacks f g) (sides : List Side)
    (few : attacks.length + attackCount (f.attackInTurn arena sides).1 < UInt32.size) :
    Mirrored (Stage.Mirror w i) attacks (f.attackInTurn arena sides) (g.attackInTurn arena sides) := by
  induction sides generalizing f g attacks with
  | nil => exact .still (.fighting h) rfl
  | cons side rest ih =>
    by_cases ready : f.isReady arena side = true
    · have readyToo : g.isReady arena side = true := (h.isReady arena side).trans ready
      rw [attackInTurn_ready arena ready] at few ⊢
      rw [attackInTurn_ready arena readyToo]
      dsimp only at few ⊢
      rw [attackCount_append, Blow.attackCount_events] at few
      obtain ⟨events, after⟩ := Blow.mirror (b := ⟨side, f.spendGauge arena side⟩)
        (c := ⟨side, g.spendGauge arena side⟩) arena (h.spendGauge arena side) rfl (by omega)
      generalize (⟨side, f.spendGauge arena side⟩ : Blow σ) = b at *
      generalize (⟨side, g.spendGauge arena side⟩ : Blow σ) = c at *
      have decided : (c.resolved arena).combatants.isDecided =
          (b.resolved arena).combatants.isDecided := by rw [after.alike.same.1]
      -- what comes after the attack is the end or the turns of the other sides, in both fights alike
      have next : Mirrored (Stage.Mirror w i) (attacks ++ [b.record arena])
          (if (b.resolved arena).combatants.isDecided then (b.resolved arena).conclude
            else (b.resolved arena).attackInTurn arena rest)
          (if (c.resolved arena).combatants.isDecided then (c.resolved arena).conclude
            else (c.resolved arena).attackInTurn arena rest) := by
        rw [decided]
        split
        · exact after.conclude
        · next undecided =>
          refine ih after ?_
          rw [if_neg undecided] at few
          rw [List.length_append, List.length_singleton]
          omega
      obtain ⟨later, more, length, stage⟩ := next
      refine ⟨congrArg₂ (· ++ ·) events later, b.record arena :: more, ?_, ?_⟩
      · rw [attackCount_append, Blow.attackCount_events, List.length_cons, length]
        omega
      · rwa [List.append_cons]
    · have waits : ¬ g.isReady arena side = true := by rwa [h.isReady arena side]
      rw [Fight.attackInTurn, if_neg ready] at few ⊢
      rw [Fight.attackInTurn, if_neg waits]
      exact ih h few

theorem tick (h : Mirror w i attacks f g) (dt : Float32)
    (few : attacks.length + attackCount (f.tick arena dt).1 < UInt32.size) :
    Mirrored (Stage.Mirror w i) attacks (f.tick arena dt) (g.tick arena dt) := by
  rw [Fight.tick] at few ⊢
  rw [Fight.tick, h.alike.same.1]
  split
  · exact h.conclude
  · next undecided =>
    rw [if_neg undecided] at few
    exact (h.advance _).attackInTurn arena _ few

end Fight.Mirror

/-! ## Battles -/

/-- Whether the call is a start. -/
def Call.isStart : Call σ → Bool
  | .start _ => true
  | _ => false

/-- Fights open alike, with nothing counted. -/
theorem Fight.opening_mirror {F G : Forest} (T : F.Twins w G) (before after : List Forest)
    (player enemy : Profile) (maskCount : UInt32) (rng : Stream) (memory : σ) :
    Mirror w before.length []
      (opening player enemy (before ++ F :: after) maskCount rng memory)
      (opening player enemy (before ++ G :: after) maskCount rng memory) := by
  let f : Fight σ := {
    combatants := ⟨.ofProfile player, .ofProfile enemy⟩
    forests := (before ++ F :: after).map Forest.reset
    maskCount := maskCount
    rng := rng
    memory := memory }
  have alike : Alike w before.length 0 f
      { f with forests := (before ++ G :: after).map Forest.reset } := .intro (T.reset_in before after)
  have opened := alike.traverse_outside (m := f.moment .battleStart 0) (by simp) (by simp) none
  exact ⟨opened, rfl⟩

namespace Battle

/-- What the gate of a node in one of the forests in play has counted. -/
def counterAt? (b : Battle σ) (forest id : Nat) : Option UInt32 :=
  b.stage.fight?.bind fun f => f.forests[forest]?.map (·.counter id)

/-- Two battles with fights that are alike. -/
structure Mirror (w : GateSwap) (i : Nat) (attacks : List AttackRecord) (b c : Battle σ) : Prop where
  arena : c.arena = b.arena
  stage : Stage.Mirror w i attacks b.stage c.stage

namespace Mirror

variable {b c : Battle σ} {attacks : List AttackRecord}

theorem tick (h : Mirror w i attacks b c) (dt : Float32)
    (few : attacks.length + attackCount (b.tick dt).1 < UInt32.size) :
    Mirrored (Mirror w i) attacks (b.tick dt) (c.tick dt) := by
  obtain ⟨arena, stage⟩ := b
  obtain ⟨_, stage'⟩ := c
  obtain ⟨rfl, mirror⟩ := h
  cases mirror with
  | fighting mirror =>
    obtain ⟨events, more, length, stage⟩ := mirror.tick _ dt few
    exact ⟨events, more, length, rfl, stage⟩
  | ended mirror outcome => exact .still ⟨rfl, .ended mirror outcome⟩ rfl

theorem stop (h : Mirror w i attacks b c) : Mirror w i attacks b.stop c.stop := by
  obtain ⟨arena, stage⟩ := b
  obtain ⟨_, stage'⟩ := c
  obtain ⟨rfl, mirror⟩ := h
  cases mirror with
  | fighting mirror => exact ⟨rfl, .ended mirror none⟩
  | ended mirror outcome => exact ⟨rfl, .ended mirror outcome⟩

theorem addStep (h : Mirror w i attacks b c) (side : Side) (step : Step σ) :
    Mirror w i attacks ((b.addStep? side step).getD b) ((c.addStep? side step).getD c) := by
  rw [addStep?, addStep?, h.arena]
  cases (b.arena.pipelines.get side).addStep? step with
  | none => exact h
  | some p => exact ⟨rfl, h.stage⟩

theorem setFinalizer (h : Mirror w i attacks b c) (side : Side) (step : Step σ) :
    Mirror w i attacks (b.setFinalizer side step) (c.setFinalizer side step) := by
  refine ⟨?_, h.stage⟩
  unfold Battle.setFinalizer
  rw [h.arena]

/-- A call that is no start does the same in battles that are alike. -/
theorem call (h : Mirror w i attacks b c) {x : Call σ} (hx : x.isStart = false)
    (few : attacks.length + attackCount (b.call x).1 < UInt32.size) :
    Mirrored (Mirror w i) attacks (b.call x) (c.call x) := by
  cases x with
  | start setup => cases hx
  | tick dt => exact h.tick dt few
  | stop => exact .still h.stop rfl
  | addStep side step => exact .still (h.addStep side step) rfl
  | setFinalizer side step => exact .still (h.setFinalizer side step) rfl

theorem plays (h : Mirror w i attacks b c) {calls : List (Call σ)}
    (single : ∀ x ∈ calls, x.isStart = false)
    (few : attacks.length + attackCount (b.plays calls).1.flatten < UInt32.size) :
    (c.plays calls).1 = (b.plays calls).1 ∧ ∃ more : List AttackRecord,
      Mirror w i (attacks ++ more) (b.plays calls).2 (c.plays calls).2 := by
  induction calls generalizing b c attacks with
  | nil => exact ⟨rfl, [], by rwa [List.append_nil]⟩
  | cons x rest ih =>
    have told : (b.plays (x :: rest)).1 = (b.call x).1 :: ((b.call x).2.plays rest).1 := rfl
    rw [told, List.flatten_cons, attackCount_append] at few
    obtain ⟨events, more, length, mirror⟩ := h.call (single x List.mem_cons_self) (by omega)
    obtain ⟨later, evenMore, mirror⟩ := ih mirror
      (fun y hy => single y (List.mem_cons_of_mem x hy)) (by rw [List.length_append]; omega)
    refine ⟨congrArg₂ List.cons events later, more ++ evenMore, ?_⟩
    rw [← List.append_assoc]
    exact mirror

/-- Nothing but the counter of the swapped gate tells the battles apart. -/
theorem views (h : Mirror w i attacks b c) :
    c.report = b.report ∧ c.stage.rng = b.stage.rng ∧ c.stage.memory = b.stage.memory ∧
      c.isFighting = b.isFighting ∧
      ∀ forest id, ¬(forest = i ∧ id = w.node) → c.counterAt? forest id = b.counterAt? forest id := by
  obtain ⟨arena, stage⟩ := b
  obtain ⟨_, stage'⟩ := c
  obtain ⟨rfl, mirror⟩ := h
  cases mirror with
  | fighting mirror | ended mirror =>
    obtain ⟨alike, -⟩ := mirror
    cases alike with
    | intro twins => exact ⟨rfl, rfl, rfl, rfl, fun forest id other => twins.counter other⟩

end Mirror

/-- Whether a start is refused does not depend on the forests. -/
theorem call_start_cases (b : Battle σ) (s : BattleSetup) :
    (∀ forests, b.call (.start { s with forests := forests }) = ([], b)) ∨
      ∃ (events : List Event) (arena : Arena σ) (enemy : Profile), attackCount events = 0 ∧
        ∀ forests, b.call (.start { s with forests := forests }) =
          (events, ⟨arena, .fighting (Fight.opening s.player enemy forests s.maskCount
            b.stage.rng b.stage.memory)⟩) := by
  simp only [call, start]
  cases b.stage with
  | fighting f => exact .inl fun _ => rfl
  | idle | ended =>
    cases s.enemy with
    | none => exact .inl fun _ => rfl
    | some enemy => exact .inr ⟨_, _, enemy, rfl, fun _ => rfl⟩

/-- A gate that counts its calls and its match on the number of the attack agree in battle. Whatever a
battle has been through, whatever else is in play and whatever is done until the end of the fight, with
fewer attacks than a counter can hold every call has the same events with either gate, and afterwards
the report, the random words, what the steps remember and every other counter are the same. -/
theorem plays_twins {F G : Forest} (T : F.Twins w G) (b : Battle σ) (s : BattleSetup)
    (before after : List Forest) (calls : List (Call σ)) (single : ∀ x ∈ calls, x.isStart = false) :
    let x := b.plays (.start { s with forests := before ++ F :: after } :: calls)
    let y := b.plays (.start { s with forests := before ++ G :: after } :: calls)
    attackCount x.1.flatten < UInt32.size →
    y.1 = x.1 ∧ y.2.report = x.2.report ∧ y.2.stage.rng = x.2.stage.rng ∧
      y.2.stage.memory = x.2.stage.memory ∧ y.2.isFighting = x.2.isFighting ∧
      ∀ forest id, ¬(forest = before.length ∧ id = w.node) →
        y.2.counterAt? forest id = x.2.counterAt? forest id := by
  intro x y few
  obtain refused | ⟨events, arena, enemy, peaceful, accepted⟩ := b.call_start_cases s
  · have same : y = x := by simp only [x, y, Battle.plays, refused]
    rw [same]
    exact ⟨rfl, rfl, rfl, rfl, rfl, fun _ _ _ => rfl⟩
  · let opened (forests : List Forest) : Battle σ := ⟨arena, .fighting (Fight.opening s.player enemy
      forests s.maskCount b.stage.rng b.stage.memory)⟩
    have played (forests : List Forest) :
        b.plays (.start { s with forests := forests } :: calls) =
          (events :: ((opened forests).plays calls).1, ((opened forests).plays calls).2) := by
      rw [plays, accepted]
    have mirror : Mirror w before.length [] (opened (before ++ F :: after))
        (opened (before ++ G :: after)) :=
      ⟨rfl, .fighting (Fight.opening_mirror T before after ..)⟩
    simp only [x, played, List.flatten_cons, attackCount_append, peaceful] at few
    obtain ⟨told, more, mirror⟩ := mirror.plays single few
    simp only [x, y, played, told, true_and]
    exact mirror.views

end Battle

/-- A forest with a gate among the effects on an attack, behind a side filter. -/
def drill (side : SideFilter) (gate : Gate) : Forest :=
  .build "drill" [.addGate none { condition := .phase .attackModify }, .addGate (some 0) gate,
    .setSide 1 side, .addEffect (some 1) (.attackField .rawAttack 5)]

theorem drill_nodes (side : SideFilter) (gate : Gate) :
    (drill side gate).nodes = #[{ behavior := some 0, children := [1] },
      { behavior := some 1, side := side, children := [2] }, { behavior := some 2 }] :=
  rfl

theorem drill_behaviors (side : SideFilter) (gate : Gate) :
    (drill side gate).behaviors = #[.gate { condition := .phase .attackModify }, .gate gate,
      .effect (.attackField .rawAttack 5)] :=
  rfl

/-- Drills with matched gates are twins. -/
theorem drill_twins {side : SideFilter} {g h : Gate} (matched : Gate.Matched side g h) :
    (drill side g).Twins ⟨1, side, g, h, matched⟩ (drill side h) where
  planted := Forest.planted_build _ _
  roots := rfl
  counters := rfl
  others id ne := by
    simp only [Forest.logicAt, Forest.behaviorOf, drill_nodes, drill_behaviors]
    rcases id with _ | _ | _ | id
    · rfl
    · exact absurd rfl ne
    · rfl
    · rfl
  here := by
    simp only [Forest.logicAt, Forest.behaviorOf, drill_nodes, drill_behaviors]
    exact ⟨[2], rfl, rfl⟩
  behind := by
    simp only [Forest.logicAt, Forest.behaviorOf, drill_nodes, drill_behaviors]
    exact ⟨0, List.mem_singleton_self 0, [1], List.mem_singleton_self 1, rfl⟩

/-- A fight that neither side wins soon. -/
def sparring (forests : List Forest) : BattleSetup where
  player := { name := "Hero", speedRate := 10 }
  enemy := some { name := "Dummy", maxHp := 100, speedRate := 0 }
  forests := forests
  maskCount := 1

/-- Whether the first two attacks of the player are counted or told by their numbers is seen in the
counter of the gate only. -/
theorem drills_agree :
    let b : Battle Unit := .new { critEnabled := false } ()
    let calls : List (Call Unit) := [.tick 1, .tick 1, .tick 1]
    let x := b.plays (.start (sparring [drill .player ⟨.maxTriggers 2, false⟩]) :: calls)
    let y := b.plays (.start (sparring [drill .player ⟨.firstAttacks 2, false⟩]) :: calls)
    attackCount x.1.flatten = 3 ∧ y.1 = x.1 ∧ y.2.report = x.2.report ∧
      y.2.stage.rng = x.2.stage.rng ∧ x.2.counterAt? 0 1 = some 2 ∧ y.2.counterAt? 0 1 = some 0 := by
  intro b calls x y
  have matched : Gate.Matched .player ⟨.maxTriggers 2, false⟩ ⟨.firstAttacks 2, false⟩ :=
    .firstAttacks (by decide) (by decide)
  have three : attackCount x.1.flatten = 3 := by decide +kernel
  have few : attackCount x.1.flatten < UInt32.size := by
    rw [three]
    decide
  have single : ∀ x ∈ calls, x.isStart = false := by simp [calls, Call.isStart]
  obtain ⟨events, report, rng, -⟩ :=
    Battle.plays_twins (drill_twins matched) b (sparring []) [] [] calls single few
  exact ⟨three, events, report, rng, by decide +kernel, by decide +kernel⟩

end Masquerade
