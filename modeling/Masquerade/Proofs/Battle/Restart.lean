import Masquerade.Proofs.Battle.Chronicle
import Masquerade.Proofs.Battle.Fallen
import Masquerade.Proofs.Logic.Reset

/-!
# Restarts

Of everything that happened in a battle before, a start takes over the random words, the pipelines and
what their steps remember; whatever the gates of the forests had counted is set to zero. Two battles
that agree in these few things therefore go on alike from a start on (`Battle.plays_start`). In a fight
the forests in play keep their logic: only counters change (`Battle.tick_logic`).
-/

namespace Masquerade

open RandomWords (Stream)

variable {σ : Type} {arena : Arena σ}

/-! ## The logic in play -/

namespace Fight

/-- The forests in play, without what has been counted. -/
def logic (f : Fight σ) : List Forest := f.forests.map Forest.reset

theorem traverse_logic (f : Fight σ) (m : Moment) (a : Option Attack) :
    (f.traverse m a).1.logic = f.logic :=
  Forest.runAll_reset f.forests m { attack := a, combatants := some f.combatants } f.rng

theorem closed_logic (f : Fight σ) : f.closed.logic = f.logic :=
  f.traverse_logic _ none

theorem tickStart_logic (f : Fight σ) (dt : Float32) : (f.tickStart dt).logic = f.logic := by
  rw [tickStart]
  split <;> rfl

end Fight

theorem Blow.resolved_logic (b : Blow σ) : (b.resolved arena).logic = b.fight.logic := by
  have announced : b.announced.logic = b.fight.logic := b.fight.traverse_logic _ _
  have struck : (b.struck arena).logic = b.announced.logic := rfl
  have resolved : (b.resolved arena).logic = (b.struck arena).logic :=
    (b.struck arena).traverse_logic _ none
  rw [resolved, struck, announced]

theorem Exchange.after_logic {f : Fight σ} {blows : List (Blow σ)} (h : Exchange arena f blows) :
    (f.after arena blows).logic = f.logic := by
  induction h with
  | still f => rfl
  | @blow f side rest undecided ready later ih =>
    rw [Fight.after_cons, ih]
    exact Blow.resolved_logic ⟨side, f.spendGauge arena side⟩

theorem Fight.tickEnd_logic (arena : Arena σ) (f : Fight σ) (dt : Float32) :
    (f.tickEnd arena dt).logic = f.logic := by
  rw [tickEnd, (f.tickBlows_exchange arena dt).after_logic, tickStart_logic]

/-- A tick changes the counters of the forests in play at most. -/
theorem Battle.tick_logic {b : Battle σ} {f : Fight σ} (hb : b.stage = .fighting f)
    (dt : Float32) : ∃ f', (b.tick dt).2.stage.fight? = some f' ∧ f'.logic = f.logic := by
  rw [tick_fighting hb]
  show ∃ f', (f.tickEnd b.arena dt).stage.fight? = some f' ∧ _
  rw [Fight.stage]
  split
  · exact ⟨_, rfl, by rw [Fight.closed_logic, Fight.tickEnd_logic]⟩
  · exact ⟨_, rfl, f.tickEnd_logic b.arena dt⟩

/-! ## Openings -/

namespace Fight

/-- A fight before the effects of its start have run. -/
def unopened (player enemy : Profile) (forests : List Forest) (maskCount : UInt32) (rng : Stream)
    (memory : σ) : Fight σ where
  combatants := ⟨.ofProfile player, .ofProfile enemy⟩
  forests := forests.map (·.reset)
  maskCount := maskCount
  rng := rng
  memory := memory

variable (player enemy : Profile) (forests : List Forest) (maskCount : UInt32) (rng : Stream)
  (memory : σ)

theorem opening_logic :
    (opening player enemy forests maskCount rng memory).logic = forests.map Forest.reset := by
  refine (traverse_logic _ _ none).trans ?_
  show (forests.map Forest.reset).map Forest.reset = _
  simp

/-- A fight begins with every counter at zero. -/
theorem opening_fresh :
    ∀ F ∈ (opening player enemy forests maskCount rng memory).forests, F.Fresh := by
  refine Forest.Fresh.runAll (fun F hF => ?_) rfl _ rng
  obtain ⟨G, -, rfl⟩ := List.mem_map.1 hF
  exact G.fresh_reset

/-- What had been counted before has no part in an opening. -/
theorem opening_congr {forests forests' : List Forest}
    (h : forests.map Forest.reset = forests'.map Forest.reset) :
    opening player enemy forests maskCount rng memory =
      opening player enemy forests' maskCount rng memory := by
  rw [opening, opening, h]

end Fight

/-! ## Starts -/

/-- Two setups that differ in what their forests have counted at most. -/
structure BattleSetup.SameLogic (s t : BattleSetup) : Prop where
  player : s.player = t.player
  enemy : s.enemy = t.enemy
  forests : List.Forall₂ Forest.SameLogic s.forests t.forests
  maskCount : s.maskCount = t.maskCount

namespace Battle

/-- Makes calls one after the other: the events of each, and the battle in the end. -/
def plays (b : Battle σ) : List (Call σ) → List (List Event) × Battle σ
  | [] => ([], b)
  | x :: rest =>
    let (events, b) := b.call x
    let (later, b) := b.plays rest
    (events :: later, b)

theorem tick_arena (b : Battle σ) (dt : Float32) : (b.tick dt).2.arena = b.arena := by
  rw [tick]
  split <;> rfl

theorem stop_arena (b : Battle σ) : b.stop.arena = b.arena := by
  rw [stop]
  split <;> rfl

/-- Outside a fight a start depends on the arena, the random words and the memory of the steps, and on
nothing else of the battle. -/
theorem start_idle {b : Battle σ} (idle : b.isFighting = false) (s : BattleSetup) :
    b.start s =
      match s.enemy with
      | none => .error .missingEnemy
      | some enemy =>
        let builtIn := (FinalDamage.ofRuleset b.arena.ruleset).step σ
        .ok ([.entered s.player.name enemy.name, .started],
          ⟨{ b.arena with pipelines := b.arena.pipelines.mapSides fun _ p => p.ensureFinalizer builtIn },
            .fighting (Fight.opening s.player enemy s.forests s.maskCount b.stage.rng
              b.stage.memory)⟩) := by
  rw [start]
  cases hb : b.stage with
  | fighting f => simp [isFighting, hb] at idle
  | idle | ended => cases s.enemy <;> rfl

theorem exists_start {b : Battle σ} (idle : b.isFighting = false) {s : BattleSetup}
    (enemy : s.enemy.isSome = true) : ∃ out, b.start s = .ok out := by
  obtain ⟨e, he⟩ := Option.isSome_iff_exists.1 enemy
  rw [start_idle idle, he]
  exact ⟨_, rfl⟩

theorem start_congr {b c : Battle σ} (hb : b.isFighting = false) (hc : c.isFighting = false)
    (arena : b.arena = c.arena) (rng : b.stage.rng = c.stage.rng)
    (memory : b.stage.memory = c.stage.memory) {s t : BattleSetup} (same : s.SameLogic t) :
    b.start s = c.start t := by
  have logic := Forest.forall₂_sameLogic_iff.1 same.forests
  rw [start_idle hb, start_idle hc, arena, rng, memory, same.player, same.enemy, same.maskCount]
  cases t.enemy with
  | none => rfl
  | some enemy =>
    dsimp only
    rw [Fight.opening_congr t.player enemy t.maskCount c.stage.rng c.stage.memory logic]

/-- A start that succeeds has the forests of its setup in play, with every counter at zero. -/
theorem fresh_of_start {b : Battle σ} {s : BattleSetup} {out : List Event × Battle σ}
    (h : b.start s = .ok out) :
    ∃ f, out.2.stage = .fighting f ∧ f.logic = s.forests.map Forest.reset ∧
      ∀ F ∈ f.forests, F.Fresh := by
  rw [start] at h
  split at h
  · cases h
  · cases h
  · next enemy _ _ =>
    cases h
    refine ⟨_, rfl, Fight.opening_logic .., ?_⟩
    exact Fight.opening_fresh s.player enemy s.forests s.maskCount b.stage.rng b.stage.memory

/-- Nothing leaks from one fight into the next. Two battles outside a fight that agree in their arena,
in the random words and in what the steps remember are told apart by nothing once they are started with
setups that differ in counted numbers only: every call has the same events in both, and the battles end
up equal. Whatever battle is started, every counter of every forest in play is then zero. -/
theorem plays_start {b c : Battle σ} (hb : b.isFighting = false) (hc : c.isFighting = false)
    (arena : b.arena = c.arena) (rng : b.stage.rng = c.stage.rng)
    (memory : b.stage.memory = c.stage.memory) {s t : BattleSetup} (same : s.SameLogic t)
    (enemy : s.enemy.isSome = true) (calls : List (Call σ)) :
    b.start s = c.start t ∧ (b.start s).toBool = true ∧
    b.plays (.start s :: calls) = c.plays (.start t :: calls) ∧
    ∀ (d : Battle σ) (u : BattleSetup) (out : List Event × Battle σ), d.start u = .ok out →
      ∃ f, out.2.stage = .fighting f ∧ List.Forall₂ Forest.SameLogic u.forests f.forests ∧
        ∀ F ∈ f.forests, ∀ id, F.counter id = 0 := by
  have started := start_congr hb hc arena rng memory same
  obtain ⟨out, accepted⟩ := exists_start hb enemy
  refine ⟨started, by rw [accepted]; rfl, ?_, fun d u out h => ?_⟩
  · have called : b.call (.start s) = c.call (.start t) := by
      rw [call, call, ← started, accepted]
    rw [plays, plays, called]
  · obtain ⟨f, stage, logic, fresh⟩ := fresh_of_start h
    exact ⟨f, stage, Forest.forall₂_sameLogic_iff.2 logic.symm, fresh⟩

end Battle

/-- A forest with one gate that counts. -/
def drum : Forest := ((Forest.empty "drum").addGate none { condition := .waitEvery 3 }).2

/-- The drum after one beat. -/
def beatenDrum : Forest :=
  (drum.run (Moment.ofAttack .attackModify .player 1 1) {} (Stream.ofSeed 0)).1

/-- A battle that was stopped at once and one that has come to its end are the same to the next start,
and so are a drum and a beaten drum. -/
theorem drums_start_alike :
    let a := ((Course.new { critEnabled := false } ()).calls [.start (duel [])]).battle
    (a.tick 1).2.stage.outcome? = some .defeat ∧ beatenDrum.counter 0 = 1 ∧
      a.stop.plays [.start (duel [drum]), .tick 1] =
        (a.tick 1).2.plays [.start (duel [beatenDrum]), .tick 1] := by
  intro a
  have lost : (a.tick 1).2.stage.outcome? = some .defeat := by decide +kernel
  have same : (duel [drum]).SameLogic (duel [beatenDrum]) := by
    refine ⟨rfl, rfl, Forest.forall₂_sameLogic_iff.2 ?_, rfl⟩
    exact congrArg ([·]) (drum.run_reset ..).symm
  have played := Battle.plays_start a.stop_isFighting
    (Battle.not_isFighting_of_outcome (by simp [lost])) (a.stop_arena.trans (a.tick_arena 1).symm)
    (by decide +kernel) rfl same rfl [.tick 1]
  exact ⟨lost, by decide +kernel, played.2.2.1⟩

end Masquerade
