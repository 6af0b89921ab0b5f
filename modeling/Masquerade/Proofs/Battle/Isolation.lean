import Masquerade.Battle.Growth
import Masquerade.Proofs.Battle.Restart
import Masquerade.Proofs.Logic.Pruned

/-!
# Phases are isolated

What only takes part in binding, in growth or in descriptions can be deleted from the forests in play
without a battle going on differently (`Battle.plays_pruned`), and what only takes part in other phases
than growth without any other growth (`collectGrowth_pruned`). Both are seen step by step: a walk of the
pruned forests does what a walk of the forests does, and leaves them pruned.
-/

namespace Masquerade

open RandomWords (Stream)

variable {σ : Type}

/-! ## Fights -/

namespace Fight

/-- The fight without logic that only takes part outside battles. -/
def pruned (f : Fight σ) : Fight σ :=
  { f with forests := f.forests.map (·.prune Gate.offBattle) }

/-- The forests in play are planted. -/
def Planted (f : Fight σ) : Prop := ∀ F ∈ f.forests, F.Planted

theorem Planted.traverse {f : Fight σ} (h : f.Planted) (m : Moment) (a : Option Attack) :
    (f.traverse m a).1.Planted :=
  Forest.runAll_planted h m { attack := a, combatants := some f.combatants } f.rng

theorem traverse_pruned {f : Fight σ} (h : f.Planted) {m : Moment} (battle : m.phase.inBattle = true)
    (a : Option Attack) :
    f.pruned.traverse m a = ((f.traverse m a).1.pruned, (f.traverse m a).2) := by
  have walked := Forest.runAll_prune h (Moment.shuts_offBattle battle)
    { attack := a, combatants := some f.combatants } f.rng
  simp only [traverse, pruned, walked]

end Fight

namespace Blow

variable {b : Blow σ}

/-- The attack in the pruned fight. -/
def pruned (b : Blow σ) : Blow σ := ⟨b.side, b.fight.pruned⟩

theorem struck_planted (h : b.fight.Planted) (arena : Arena σ) : (b.struck arena).Planted :=
  h.traverse (b.fight.attackMoment .attackModify b.side b.built 0) (some b.built)

theorem resolved_planted (h : b.fight.Planted) (arena : Arena σ) : (b.resolved arena).Planted :=
  Fight.Planted.traverse (b.struck_planted h arena) _ none

theorem modifying_pruned (h : b.fight.Planted) :
    b.pruned.modifying = (b.announced.pruned, b.modifying.2) :=
  Fight.traverse_pruned h (m := b.fight.attackMoment .attackModify b.side b.built 0) rfl
    (some b.built)

theorem modified_pruned (h : b.fight.Planted) : b.pruned.modified = b.modified := by
  rw [modified, modifying_pruned h]
  rfl

theorem announced_pruned (h : b.fight.Planted) : b.pruned.announced = b.announced.pruned := by
  rw [announced, modifying_pruned h]

theorem strike_pruned (h : b.fight.Planted) (arena : Arena σ) :
    b.pruned.strike arena = b.strike arena := by
  rw [strike, announced_pruned h, modified_pruned h]
  rfl

theorem struck_pruned (h : b.fight.Planted) (arena : Arena σ) :
    b.pruned.struck arena = (b.struck arena).pruned := by
  rw [struck, judged, settled, strike_pruned h, announced_pruned h]
  rfl

theorem resolved_pruned (h : b.fight.Planted) (arena : Arena σ) :
    b.pruned.resolved arena = (b.resolved arena).pruned := by
  rw [resolved, struck_pruned h, settled, strike_pruned h]
  have applied := Fight.traverse_pruned (b.struck_planted h arena)
    (m := (b.struck arena).attackMoment .damageApplied b.side (b.settled arena)
      (b.settled arena).damage) rfl none
  exact congrArg (fun out => { out.1 with counters := out.1.counters.record b.side }) applied

theorem events_pruned (h : b.fight.Planted) (arena : Arena σ) :
    b.pruned.events arena = b.events arena := by
  simp only [events, told, List.map_cons, List.map_nil, defenderHp, settled, modified_pruned h,
    strike_pruned h, struck_pruned h]
  rfl

end Blow

namespace Fight

theorem resolveAttack_pruned {f : Fight σ} (h : f.Planted) (arena : Arena σ) (side : Side) :
    f.pruned.resolveAttack arena side =
      ((f.resolveAttack arena side).1, (f.resolveAttack arena side).2.pruned) :=
  Prod.ext (Blow.events_pruned (b := ⟨side, f⟩) h arena)
    (Blow.resolved_pruned (b := ⟨side, f⟩) h arena)

end Fight

/-- The stage with its fight pruned. -/
def Stage.pruned : Stage σ → Stage σ
  | .idle rng memory => .idle rng memory
  | .fighting f => .fighting f.pruned
  | .ended f outcome => .ended f.pruned outcome

/-- The fight on stage, if there is one, is planted. -/
def Stage.Planted (stage : Stage σ) : Prop := ∀ f, stage.fight? = some f → f.Planted

namespace Fight

variable {f : Fight σ}

theorem conclude_pruned (h : f.Planted) :
    f.pruned.conclude = (f.conclude.1, f.conclude.2.pruned) := by
  have closed := traverse_pruned h (m := f.moment .battleEnd f.counters.actions) rfl none
  rw [conclude]
  dsimp only
  rw [show f.pruned.moment .battleEnd f.pruned.counters.actions =
    f.moment .battleEnd f.counters.actions from rfl, closed]
  rfl

theorem conclude_planted (h : f.Planted) : f.conclude.2.Planted := by
  rintro _ ⟨⟩
  exact h.traverse _ none

theorem attackInTurn_pruned (h : f.Planted) (arena : Arena σ) (sides : List Side) :
    f.pruned.attackInTurn arena sides =
        ((f.attackInTurn arena sides).1, (f.attackInTurn arena sides).2.pruned) ∧
      (f.attackInTurn arena sides).2.Planted := by
  induction sides generalizing f with
  | nil =>
    refine ⟨rfl, ?_⟩
    rintro _ ⟨⟩
    exact h
  | cons side rest ih =>
    have same : f.pruned.isReady arena side = f.isReady arena side := rfl
    rw [attackInTurn, attackInTurn, same]
    by_cases ready : f.isReady arena side = true
    · have spent : (f.spendGauge arena side).Planted := h
      have resolved := resolveAttack_pruned spent arena side
      have later : ((f.spendGauge arena side).resolveAttack arena side).2.Planted :=
        Blow.resolved_planted (b := ⟨side, f.spendGauge arena side⟩) spent arena
      rw [if_pos ready, if_pos ready,
        show f.pruned.spendGauge arena side = (f.spendGauge arena side).pruned from rfl, resolved]
      dsimp only
      generalize (f.spendGauge arena side).resolveAttack arena side = out at later
      have decided : out.2.pruned.combatants = out.2.combatants := rfl
      rw [decided]
      by_cases done : out.2.combatants.isDecided = true
      · rw [if_pos done, if_pos done, conclude_pruned later]
        exact ⟨rfl, conclude_planted later⟩
      · rw [if_neg done, if_neg done, (ih later).1]
        exact ⟨rfl, (ih later).2⟩
    · rw [if_neg ready, if_neg ready]
      exact ih h

theorem tick_pruned (h : f.Planted) (arena : Arena σ) (dt : Float32) :
    f.pruned.tick arena dt = ((f.tick arena dt).1, (f.tick arena dt).2.pruned) ∧
      (f.tick arena dt).2.Planted := by
  have same : f.pruned.combatants = f.combatants := rfl
  rw [tick, tick, same]
  by_cases done : f.combatants.isDecided = true
  · rw [if_pos done, if_pos done]
    exact ⟨conclude_pruned h, conclude_planted h⟩
  · rw [if_neg done, if_neg done]
    exact attackInTurn_pruned (f := f.advance (timeStep dt)) h arena Side.order

end Fight

/-- The setup without logic that only takes part outside battles. -/
def BattleSetup.pruned (setup : BattleSetup) : BattleSetup :=
  { setup with forests := setup.forests.map (·.prune Gate.offBattle) }

namespace Fight

variable {forests : List Forest} (player enemy : Profile) (maskCount : UInt32) (rng : Stream)
  (memory : σ)

theorem unopened_planted (h : ∀ F ∈ forests, F.Planted) :
    (unopened player enemy forests maskCount rng memory).Planted := by
  intro F hF
  obtain ⟨G, hG, rfl⟩ := List.mem_map.1 hF
  exact (h G hG).apply .reset

theorem unopened_pruned :
    unopened player enemy (forests.map (·.prune Gate.offBattle)) maskCount rng memory =
      (unopened player enemy forests maskCount rng memory).pruned := by
  have forgotten : (forests.map (·.prune Gate.offBattle)).map (·.reset) =
      (forests.map (·.reset)).map (·.prune Gate.offBattle) := by
    rw [List.map_map, List.map_map]
    exact List.map_congr_left fun F _ => F.reset_prune Gate.offBattle
  rw [unopened, forgotten]
  rfl

theorem opening_planted (h : ∀ F ∈ forests, F.Planted) :
    (opening player enemy forests maskCount rng memory).Planted :=
  (unopened_planted player enemy maskCount rng memory h).traverse _ none

theorem opening_pruned (h : ∀ F ∈ forests, F.Planted) :
    opening player enemy (forests.map (·.prune Gate.offBattle)) maskCount rng memory =
      (opening player enemy forests maskCount rng memory).pruned := by
  have opened := traverse_pruned (unopened_planted player enemy maskCount rng memory h)
    (m := (unopened player enemy forests maskCount rng memory).moment .battleStart 0) rfl none
  rw [← unopened_pruned] at opened
  exact congrArg Prod.fst opened

end Fight

/-! ## Battles -/

theorem Stage.rng_pruned (stage : Stage σ) : stage.pruned.rng = stage.rng := by
  cases stage <;> rfl

theorem Stage.memory_pruned (stage : Stage σ) : stage.pruned.memory = stage.memory := by
  cases stage <;> rfl

theorem Stage.fight?_pruned (stage : Stage σ) :
    stage.pruned.fight? = stage.fight?.map Fight.pruned := by
  cases stage <;> rfl

namespace Battle

/-- The battle with its fight pruned. -/
def pruned (b : Battle σ) : Battle σ := { b with stage := b.stage.pruned }

theorem isFighting_pruned (b : Battle σ) : b.pruned.isFighting = b.isFighting := by
  rw [isFighting, isFighting, pruned]
  cases b.stage <;> rfl

theorem combatant?_pruned (b : Battle σ) (side : Side) :
    b.pruned.combatant? side = b.combatant? side := by
  rw [combatant?, combatant?, pruned, Stage.fight?_pruned, Option.map_map]
  rfl

theorem report_pruned (b : Battle σ) : b.pruned.report = b.report := by
  obtain ⟨arena, stage⟩ := b
  cases stage <;> rfl

theorem start_pruned (b : Battle σ) {setup : BattleSetup} (h : ∀ F ∈ setup.forests, F.Planted) :
    b.pruned.start setup.pruned = (b.start setup).map fun out => (out.1, out.2.pruned) := by
  cases fighting : b.isFighting with
  | true =>
    obtain ⟨f, hf⟩ := exists_fight fighting
    simp only [start, pruned, hf, Stage.pruned, Except.map]
  | false =>
    have same : setup.pruned.enemy = setup.enemy := rfl
    rw [start_idle fighting, start_idle (b.isFighting_pruned.trans fighting), same]
    cases setup.enemy with
    | none => rfl
    | some enemy =>
      have opened := Fight.opening_pruned setup.player enemy setup.maskCount b.stage.rng
        b.stage.memory h
      simp only [pruned, Stage.rng_pruned, Stage.memory_pruned, BattleSetup.pruned, opened,
        Except.map]
      rfl

theorem start_planted {b : Battle σ} {setup : BattleSetup} (h : ∀ F ∈ setup.forests, F.Planted)
    {out : List Event × Battle σ} (hs : b.start setup = .ok out) : out.2.stage.Planted := by
  rw [start] at hs
  split at hs
  · cases hs
  · cases hs
  · cases hs
    rintro _ ⟨⟩
    exact Fight.opening_planted setup.player _ setup.maskCount _ _ h

theorem tick_pruned {b : Battle σ} (h : b.stage.Planted) (dt : Float32) :
    b.pruned.tick dt = ((b.tick dt).1, (b.tick dt).2.pruned) ∧ (b.tick dt).2.stage.Planted := by
  cases hb : b.stage with
  | fighting f =>
    rw [hb] at h
    have ticked := Fight.tick_pruned (h f rfl) b.arena dt
    simp only [tick, pruned, hb, Stage.pruned, ticked.1]
    exact ⟨trivial, ticked.2⟩
  | idle | ended =>
    simp only [tick, pruned, hb, Stage.pruned]
    rw [← hb]
    exact ⟨trivial, h⟩

theorem stop_pruned {b : Battle σ} (h : b.stage.Planted) :
    b.pruned.stop = b.stop.pruned ∧ b.stop.stage.Planted := by
  cases hb : b.stage with
  | fighting f =>
    rw [hb] at h
    simp only [stop, pruned, hb, Stage.pruned]
    exact ⟨trivial, h⟩
  | idle | ended =>
    simp only [stop, pruned, hb, Stage.pruned]
    rw [← hb]
    exact ⟨trivial, h⟩

end Battle

/-- The call with the forests of a start pruned. -/
def Call.pruned : Call σ → Call σ
  | .start setup => .start setup.pruned
  | .tick dt => .tick dt
  | .stop => .stop
  | .addStep side step => .addStep side step
  | .setFinalizer side step => .setFinalizer side step

/-- The forests that the call brings into play are planted. -/
def Call.Planted (x : Call σ) : Prop := ∀ setup, x = .start setup → ∀ F ∈ setup.forests, F.Planted

namespace Battle

theorem addStep_pruned (b : Battle σ) (side : Side) (step : Step σ) :
    (b.pruned.addStep? side step).getD b.pruned = ((b.addStep? side step).getD b).pruned := by
  rw [addStep?, addStep?]
  show ((((b.arena.pipelines.get side).addStep? step).map _).getD _) = _
  cases (b.arena.pipelines.get side).addStep? step <;> rfl

theorem call_pruned {b : Battle σ} (h : b.stage.Planted) {x : Call σ} (hx : x.Planted) :
    b.pruned.call x.pruned = ((b.call x).1, (b.call x).2.pruned) ∧ (b.call x).2.stage.Planted := by
  cases x with
  | start setup =>
    have started := b.start_pruned (hx setup rfl)
    simp only [call, Call.pruned, started]
    cases hs : b.start setup with
    | error e => exact ⟨rfl, h⟩
    | ok out => exact ⟨rfl, start_planted (hx setup rfl) hs⟩
  | tick dt => exact tick_pruned h dt
  | stop => exact ⟨congrArg (([] : List Event), ·) (stop_pruned h).1, (stop_pruned h).2⟩
  | addStep side step =>
    refine ⟨congrArg (([] : List Event), ·) (b.addStep_pruned side step), ?_⟩
    show ((b.addStep? side step).getD b).stage.Planted
    rw [addStep?_getD_stage]
    exact h
  | setFinalizer side step => exact ⟨rfl, h⟩

theorem plays_pruned {b : Battle σ} (h : b.stage.Planted) {calls : List (Call σ)}
    (hcalls : ∀ x ∈ calls, x.Planted) :
    b.pruned.plays (calls.map Call.pruned) = ((b.plays calls).1, (b.plays calls).2.pruned) ∧
      (b.plays calls).2.stage.Planted := by
  induction calls generalizing b with
  | nil => exact ⟨rfl, h⟩
  | cons x rest ih =>
    have first := call_pruned h (hcalls x List.mem_cons_self)
    have later := ih first.2 fun y hy => hcalls y (List.mem_cons_of_mem x hy)
    rw [List.map_cons, plays, first.1]
    dsimp only
    rw [later.1]
    exact ⟨rfl, later.2⟩

end Battle

/-! ## Growth -/

theorem collectGrowth_pruned {forests : List Forest} (h : ∀ F ∈ forests, F.Planted) (record : Stats)
    (report : Option BattleReport) (maskCount : UInt32) (rng : Stream) :
    collectGrowth record report maskCount (forests.map (·.prune Gate.offGrowth)) rng =
      let out := collectGrowth record report maskCount forests rng
      (out.1, out.2.1.map (·.prune Gate.offGrowth), out.2.2) := by
  have walked := Forest.runAll_prune h
    (Moment.shuts_offGrowth (m := growthMoment report maskCount) rfl)
    { combatants := report.bind (·.combatants), growth := some .zero, record := some record } rng
  simp only [collectGrowth, walked]

/-! ## Isolation -/

/-- The forests are the given ones without the nodes below gates of the given kind, and the nodes that
stay have counted the same. -/
def PrunedAlike (shut : Gate → Bool) (forests others : List Forest) : Prop :=
  others = forests.map (·.prune shut) ∧
  ∀ F ∈ forests, ∀ id, id < F.size → id ∉ F.cutOff shut →
    (F.prune shut).counter (F.slot (F.stands shut) id) = F.counter id

theorem prunedAlike_prune (shut : Gate → Bool) (forests : List Forest) :
    PrunedAlike shut forests (forests.map (·.prune shut)) :=
  ⟨rfl, fun _ _ _ hlt stays => Forest.prune_counter hlt stays⟩

/-- What stands below gates that wait for binding, growth or descriptions has no influence on battles.
When it is deleted from all forests that ever come into play, every call has the same events, every
start the same result, and the battles end up with the same arena, combatants, report, random words and
memory of steps, and with the same counters of the nodes that stay. What stands below gates that wait for
another phase than growth, or for the start or the end of a battle, has no influence on growth in the
same way. -/
theorem phases_isolated (b : Battle σ) (hb : b.stage.Planted) (calls : List (Call σ))
    (hcalls : ∀ x ∈ calls, x.Planted) (growing : List Forest) (hgrowing : ∀ F ∈ growing, F.Planted)
    (record : Stats) (report : Option BattleReport) (maskCount : UInt32) (rng : Stream) :
    let c := (b.plays calls).2
    let d := (b.pruned.plays (calls.map Call.pruned)).2
    let grown := collectGrowth record report maskCount growing rng
    let other := collectGrowth record report maskCount (growing.map (·.prune Gate.offGrowth)) rng
    ((b.pruned.plays (calls.map Call.pruned)).1 = (b.plays calls).1 ∧
      (∀ setup : BattleSetup, (∀ F ∈ setup.forests, F.Planted) →
        (d.start setup.pruned).map Prod.fst = (c.start setup).map Prod.fst) ∧
      d.arena = c.arena ∧ (∀ side, d.combatant? side = c.combatant? side) ∧
      d.report = c.report ∧ d.stage.rng = c.stage.rng ∧ d.stage.memory = c.stage.memory ∧
      d = c.pruned ∧
      ∀ f, c.stage.fight? = some f → ∃ g, d.stage.fight? = some g ∧
        PrunedAlike Gate.offBattle f.forests g.forests) ∧
    other.1 = grown.1 ∧ other.2.2 = grown.2.2 ∧
      PrunedAlike Gate.offGrowth grown.2.1 other.2.1 := by
  intro c d grown other
  have played := (Battle.plays_pruned hb hcalls).1
  have same : d = c.pruned := congrArg Prod.snd played
  have collected : other = _ := collectGrowth_pruned hgrowing record report maskCount rng
  refine ⟨⟨by rw [played], ?_, ?_, ?_, ?_, ?_, ?_, same, ?_⟩, ?_, ?_, ?_⟩
  · intro setup hsetup
    rw [same, c.start_pruned hsetup]
    cases c.start setup <;> rfl
  · rw [same]
    rfl
  · intro side
    rw [same]
    exact c.combatant?_pruned side
  · rw [same, c.report_pruned]
  · rw [same]
    exact c.stage.rng_pruned
  · rw [same]
    exact c.stage.memory_pruned
  · intro f hf
    rw [same]
    refine ⟨f.pruned, ?_, prunedAlike_prune Gate.offBattle f.forests⟩
    rw [Battle.pruned, Stage.fight?_pruned, hf]
    rfl
  · rw [collected]
  · rw [collected]
  · rw [collected]
    exact prunedAlike_prune Gate.offGrowth grown.2.1

/-- A coin behind a gate for binding, and a drum beside it. -/
def shrine : Forest :=
  .build "shrine" [.addGate none ⟨.phase .bind, false⟩, .addGate (some 0) ⟨.chance 1, false⟩,
    .addEffect (some 1) (.restoreMana 5), .addGate none ⟨.waitEvery 3, false⟩]

/-- A duel and the growth after it do not notice that the coin of a shrine is gone. -/
theorem shrine_coin_unnoticed :
    let b : Battle Unit := .new { critEnabled := false } ()
    let x := b.plays [.start (duel [shrine]), .tick 1]
    let y := b.plays [.start (duel [shrine.prune Gate.offBattle]), .tick 1]
    shrine.size = 4 ∧ (shrine.prune Gate.offBattle).size = 2 ∧ y.1 = x.1 ∧
      y.2.stage.rng = x.2.stage.rng ∧
      (collectGrowth .zero none 1 [shrine.prune Gate.offGrowth] (Stream.ofSeed 0)).2.2 =
        (collectGrowth .zero none 1 [shrine] (Stream.ofSeed 0)).2.2 := by
  intro b x y
  have planted : ∀ F ∈ [shrine], F.Planted := by
    intro F hF
    rw [List.mem_singleton.1 hF]
    exact Forest.planted_build _ _
  have called : ∀ z ∈ [Call.start (duel [shrine]), Call.tick 1], (z : Call Unit).Planted := by
    intro z hz setup hsetup
    subst hsetup
    simp only [List.mem_cons, Call.start.injEq, reduceCtorEq, List.not_mem_nil, or_false] at hz
    subst hz
    exact planted
  obtain ⟨⟨events, -, -, -, -, rng, -⟩, -, left, -⟩ := phases_isolated b (fun _ h => by cases h)
    [.start (duel [shrine]), .tick 1] called [shrine] planted .zero none 1 (Stream.ofSeed 0)
  exact ⟨rfl, by decide +kernel, events, rng, left⟩

end Masquerade
