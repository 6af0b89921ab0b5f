import Masquerade.Proofs.Battle.Kept
import Masquerade.Proofs.Single.Order

/-!
# Hit points by the log

Where no effect reaches the combatants, nothing but the damage of attacks does: a combatant is as it was
built, less the damage that the log tells of, taken in the order of the log (`Fight.Accounted`). So the log
alone determines the HP of both sides at any time (`Course.hit_points_of_log`), whatever the steps of the
pipelines make of the attacks.
-/

namespace Masquerade

open RandomWords (Stream)

variable {σ : Type} {arena : Arena σ}

/-! ## Effects that spare the combatants -/

/-- Whether the effect works on the attack in flight or on mana. -/
def Effect.sparesCombatants : Effect → Bool
  | attackField .. | maskCountScale .. | restoreMana .. => true
  | addStats .. | percentAttach .. | adjustHp .. => false

theorem Effect.write?_spares {e : Effect} (he : e.sparesCombatants = true) {m : Moment} {s t : Targets}
    (h : e.write? m s = some t) : t.combatants = s.combatants := by
  cases e with
  | attackField | maskCountScale => exact (write?_sameOthers rfl h).combatants
  | restoreMana amount =>
    rw [write?] at h
    split at h
    · obtain ⟨pool, -, rfl⟩ := Option.map_eq_some_iff.1 h
      rfl
    · cases h
  | addStats | percentAttach | adjustHp => cases he

namespace Forest

/-- Whether every effect of the forest spares the combatants. -/
def sparesCombatants (F : Forest) : Bool :=
  F.nodes.all fun node =>
    match F.behaviorOf node with
    | some (.effect e) => e.sparesCombatants
    | _ => true

theorem spares_of_effectAt? {F : Forest} (h : F.sparesCombatants = true) {id : Nat} {e : Effect}
    (he : F.effectAt? id = some e) : e.sparesCombatants = true := by
  rw [effectAt?] at he
  split at he
  · next e' hb =>
    cases he
    obtain ⟨node, hn, hb⟩ := Option.bind_eq_some_iff.1 hb
    have spares := Array.all_eq_true_iff_forall_mem.1 h node (Array.mem_of_getElem? hn)
    simpa only [hb] using spares
  · cases he

/-- The effects to which the runs of several forests come are effects of these forests. -/
theorem exists_of_mem_reachedAll {forests : List Forest} {m : Moment} {targets : Targets} {rng : Stream}
    {e : Effect} (he : e ∈ reachedAll forests m targets rng) :
    ∃ F ∈ forests, ∃ id, F.effectAt? id = some e := by
  induction forests generalizing targets rng with
  | nil => cases he
  | cons F rest ih =>
    rcases List.mem_append.1 he with he | he
    · obtain ⟨x, -, hx⟩ := List.mem_filterMap.1 he
      split at hx
      · exact ⟨F, List.mem_cons_self, x.id, hx⟩
      · cases hx
    · obtain ⟨G, hG, found⟩ := ih he
      exact ⟨G, List.mem_cons_of_mem F hG, found⟩

end Forest

/-- Every effect in play spares the combatants. -/
def Fight.Spares (f : Fight σ) : Prop := ∀ F ∈ f.logic, F.sparesCombatants = true

theorem Fight.Spares.of_logic {f g : Fight σ} (h : f.Spares) (same : g.logic = f.logic) : g.Spares := by
  rwa [Spares, same]

theorem Fight.Spares.traverse {f : Fight σ} (h : f.Spares) (m : Moment) (a : Option Attack) :
    (f.traverse m a).1.combatants = f.combatants := by
  have kept := Forest.runAll_rel (m := m) (R := fun s t => t.combatants = s.combatants) (fun _ => rfl)
    (fun h₁ h₂ => h₂.trans h₁) f.forests { attack := a, combatants := some f.combatants } f.rng
    (fun e he s t performed => by
      obtain ⟨F, hF, id, at_id⟩ := Forest.exists_of_mem_reachedAll he
      -- the counters of a forest play no part in which effects it has
      have spares : F.reset.sparesCombatants = true := h F.reset (List.mem_map_of_mem hF)
      exact Effect.write?_spares (Forest.spares_of_effectAt? (F := F) spares at_id)
        (Effect.write?_of_perform? performed).2)
  show (Forest.runAll f.forests m _ f.rng).2.1.combatants.getD f.combatants = f.combatants
  rw [kept]
  rfl

/-! ## Damage by the log -/

/-- The damage that an event tells of, if it was dealt to `side`. -/
def Event.damageTo? (side : Side) : Event → Option Float32
  | .damageApplied _ defender _ damage _ => if defender = side then some damage else none
  | _ => none

/-- The damages dealt to one side, in their order. -/
def damagesTo (side : Side) (log : List Event) : List Float32 := log.filterMap (Event.damageTo? side)

/-- The combatants after an event: the damage that it tells of is taken. -/
def Event.replay (cs : PerSide Combatant) : Event → PerSide Combatant
  | .damageApplied _ defender _ damage _ => cs.modify defender (·.takeDamage damage)
  | _ => cs

/-- The combatants after the events of a log. -/
def PerSide.replay (cs : PerSide Combatant) (log : List Event) : PerSide Combatant :=
  log.foldl Event.replay cs

theorem PerSide.get_replay (cs : PerSide Combatant) (log : List Event) (side : Side) :
    (cs.replay log).get side = (damagesTo side log).foldl Combatant.takeDamage (cs.get side) := by
  induction log generalizing cs with
  | nil => rfl
  | cons e rest ih =>
    refine (ih (e.replay cs)).trans ?_
    cases e with
    | damageApplied attacker defender attack damage defenderHp =>
      cases defender <;> cases side <;> rfl
    | _ => rfl

theorem PerSide.replay_append (cs : PerSide Combatant) (log more : List Event) :
    cs.replay (log ++ more) = (cs.replay log).replay more :=
  List.foldl_append

/-- Damage takes HP and nothing else. -/
theorem Combatant.foldl_takeDamage (c : Combatant) (damages : List Float32) :
    damages.foldl takeDamage c = { c with currentHp := (damages.foldl takeDamage c).currentHp } := by
  induction damages generalizing c with
  | nil => rfl
  | cons damage rest ih =>
    rw [List.foldl_cons, ih]
    by_cases harmless : damage ≤ 0
    · rw [takeDamage, if_pos harmless]
    · rw [takeDamage, if_neg harmless]

/-- An event does not tell of damage, or the damage is not negative and the event names the HP that the
defender has after it. -/
def Event.Truthful (after : PerSide Combatant) : Event → Prop
  | .damageApplied _ defender _ damage defenderHp =>
    0 ≤ damage ∧ defenderHp = (after.get defender).currentHp
  | _ => True

/-- Every event is truthful about the combatants as the events so far have left them. -/
def Truthful (cs : PerSide Combatant) : List Event → Prop
  | [] => True
  | e :: rest => e.Truthful (e.replay cs) ∧ Truthful (e.replay cs) rest

theorem truthful_append {cs : PerSide Combatant} {log more : List Event} :
    Truthful cs (log ++ more) ↔ Truthful cs log ∧ Truthful (cs.replay log) more := by
  induction log generalizing cs with
  | nil => simp [Truthful, PerSide.replay]
  | cons e rest ih =>
    rw [List.cons_append, Truthful, Truthful, ih, and_assoc]
    rfl

/-! ## Fights -/

/-- No effect in play reaches the combatants, they are as the log tells, and the log is truthful. -/
structure Fight.Accounted (built : PerSide Combatant) (f : Fight σ) (log : List Event) : Prop where
  spares : f.Spares
  combatants : f.combatants = built.replay log
  truthful : Truthful built log

theorem Blow.struck_combatants (b : Blow σ) :
    (b.struck arena).combatants =
      b.fight.combatants.modify b.side.opposite (·.takeDamage (b.settled arena).damage) := by
  rw [← b.announced_combatants]
  rfl

/-- An attack tells the truth about the combatants that it finds. -/
theorem Blow.truthful (b : Blow σ) : Truthful b.fight.combatants (b.events arena) := by
  refine ⟨trivial, trivial, ⟨Float32.le_atLeast Float32.isNaN_zero _, ?_⟩, trivial⟩
  show ((b.struck arena).combatants.get b.side.opposite).currentHp = _
  rw [b.struck_combatants]
  rfl

/-- Where effects spare the combatants, an attack leaves them as its events tell. -/
theorem Blow.resolved_combatants {b : Blow σ} (h : b.fight.Spares) :
    (b.resolved arena).combatants = b.fight.combatants.replay (b.events arena) := by
  have struck : (b.struck arena).Spares := h.of_logic (b.fight.traverse_logic _ _)
  refine (struck.traverse _ none).trans ?_
  rw [b.struck_combatants]
  rfl

namespace Fight.Accounted

theorem kept (r : Ruleset) (built : PerSide Combatant) :
    Fight.Kept r fun (f : Fight σ) log => f.Accounted built log where
  advance dt h := ⟨h.spares, h.combatants, h.truthful⟩
  attack {arena f log side} _ _ h := by
    let b : Blow σ := ⟨side, f.spendGauge arena side⟩
    have found : b.fight.combatants = built.replay log := h.combatants
    have spares : b.fight.Spares := h.spares
    refine ⟨spares.of_logic b.resolved_logic, ?_, truthful_append.2 ⟨h.truthful, ?_⟩⟩
    · -- what the attack finds is the replay of the log before it
      rw [PerSide.replay_append, ← found]
      exact Blow.resolved_combatants spares
    · rw [← found]
      exact b.truthful
  close {f log} h := by
    have same : f.closed.combatants = f.combatants := h.spares.traverse _ none
    have silent (cs : PerSide Combatant) :
        cs.replay [.ended f.counters.actions, f.closed.outcome.event] = cs ∧
          Truthful cs [.ended f.counters.actions, f.closed.outcome.event] := by
      cases f.closed.outcome <;> exact ⟨rfl, trivial, trivial, trivial⟩
    refine ⟨h.spares.of_logic f.closed_logic, ?_, truthful_append.2 ⟨h.truthful, (silent _).2⟩⟩
    rw [PerSide.replay_append, (silent _).1, same, h.combatants]

theorem opening (player enemy : Profile) {forests : List Forest}
    (sparing : ∀ F ∈ forests, F.sparesCombatants = true) (maskCount : UInt32) (rng : Stream)
    (memory : σ) :
    (opening player enemy forests maskCount rng memory).Accounted
      ⟨.ofProfile player, .ofProfile enemy⟩ [.entered player.name enemy.name, .started] := by
  have opened : (Fight.opening player enemy forests maskCount rng memory).Spares := by
    rw [Spares, opening_logic]
    intro F hF
    obtain ⟨G, hG, rfl⟩ := List.mem_map.1 hF
    exact sparing G hG
  have unopened : (unopened player enemy forests maskCount rng memory).Spares :=
    opened.of_logic (traverse_logic _ _ none).symm
  exact ⟨opened, unopened.traverse _ none, trivial, trivial, trivial⟩

end Fight.Accounted

/-! ## Ticks -/

/-- In every fight the combatants are as the events up to there have left them. -/
def Faithful (cs : PerSide Combatant) : List (Event × Fight σ) → Prop
  | [] => True
  | (e, f) :: rest => f.combatants = e.replay cs ∧ Faithful (e.replay cs) rest

theorem faithful_append {cs : PerSide Combatant} {told more : List (Event × Fight σ)} :
    Faithful cs (told ++ more) ↔
      Faithful cs told ∧ Faithful (cs.replay (told.map (·.1))) more := by
  induction told generalizing cs with
  | nil => simp [Faithful, PerSide.replay]
  | cons x rest ih =>
    rw [List.cons_append, Faithful, Faithful, ih, and_assoc]
    rfl

theorem Blow.faithful (b : Blow σ) : Faithful b.fight.combatants (b.told arena) :=
  ⟨b.announced_combatants, b.announced_combatants, b.struck_combatants, trivial⟩

/-- The attacks of an exchange leave the combatants as their events tell, at every point. -/
theorem Exchange.faithful {f : Fight σ} {blows : List (Blow σ)} (h : Exchange arena f blows)
    (spares : f.Spares) :
    Faithful f.combatants (blows.flatMap (·.told arena)) ∧
      (f.after arena blows).combatants =
        f.combatants.replay ((blows.flatMap (·.told arena)).map (·.1)) := by
  induction h with
  | still f => exact ⟨trivial, rfl⟩
  | @blow f side rest undecided ready later ih =>
    let b : Blow σ := ⟨side, f.spendGauge arena side⟩
    have found : b.fight.Spares := spares
    have resolved : (b.resolved arena).combatants = f.combatants.replay ((b.told arena).map (·.1)) :=
      Blow.resolved_combatants found
    obtain ⟨faithful, after⟩ := ih (found.of_logic b.resolved_logic)
    rw [resolved] at faithful after
    refine ⟨faithful_append.2 ⟨b.faithful, faithful⟩, ?_⟩
    rw [Fight.after_cons, after, List.flatMap_cons, List.map_append, PerSide.replay_append]

/-- A tick leaves the combatants as its events tell, at every point. -/
theorem Fight.Spares.faithful_tick {f : Fight σ} (h : f.Spares) (dt : Float32) :
    Faithful f.combatants (f.tickTold arena dt) := by
  have start : (f.tickStart dt).Spares := h.of_logic (f.tickStart_logic dt)
  have ending : (f.tickEnd arena dt).Spares := h.of_logic (f.tickEnd_logic arena dt)
  obtain ⟨faithful, after⟩ := (f.tickBlows_exchange arena dt).faithful start
  rw [tickStart_combatants] at faithful after
  refine faithful_append.2 ⟨faithful, ?_⟩
  rw [← after, closing]
  split
  · -- the walk at the end spares the combatants too
    have closed : (f.tickEnd arena dt).closed.combatants = (f.tickEnd arena dt).combatants :=
      ending.traverse _ none
    cases (f.tickEnd arena dt).closed.outcome <;> exact ⟨closed, closed, trivial⟩
  · trivial

namespace Course

theorem start_accounted {c : Course σ} (idle : c.battle.isFighting = false) {setup : BattleSetup}
    {enemy : Profile} (present : setup.enemy = some enemy)
    (sparing : ∀ F ∈ setup.forests, F.sparesCombatants = true) :
    ∃ f, (c.call (.start setup)).battle.stage.fight? = some f ∧
      f.Accounted ⟨.ofProfile setup.player, .ofProfile enemy⟩ (c.call (.start setup)).log := by
  obtain ⟨out, hout⟩ := Battle.exists_start idle (s := setup) (by rw [present]; rfl)
  have accepted : c.battle.starts (.start setup) = true := by
    rw [Battle.starts, hout]
    rfl
  obtain ⟨s, enemy', call, present', log, stage⟩ := exists_opening accepted
  cases call
  obtain rfl : enemy = enemy' := Option.some.inj (present.symm.trans present')
  refine ⟨_, congrArg Stage.fight? stage, ?_⟩
  rw [log]
  exact .opening setup.player enemy sparing ..

/-- Let a battle be started with forests whose effects all work on attacks in flight or on mana, and let any
calls follow that start no other battle. Then each side is as it was built, at full HP, less the damages
that the log tells of, taken in their order; and so it is at every event of a tick to come. Of its numbers
only the HP have changed. Every damage in the log is a number and not negative, and its event names the HP
that are left to the defender at this point of the log. -/
theorem hit_points_of_log (c : Course σ) (idle : c.battle.isFighting = false) (setup : BattleSetup)
    (enemy : Profile) (present : setup.enemy = some enemy)
    (sparing : ∀ F ∈ setup.forests, F.sparesCombatants = true) (later : List (Call σ))
    (same : (c.call (.start setup)).battle.startsNone later = true) :
    let d := (c.call (.start setup)).calls later
    let built : PerSide Combatant := ⟨.ofProfile setup.player, .ofProfile enemy⟩
    let hurt (side : Side) (log : List Event) : Combatant :=
      (damagesTo side log).foldl Combatant.takeDamage (built.get side)
    (∀ side, (built.get side).currentHp = (built.get side).maxHp) ∧
      (∀ side log, hurt side log = { built.get side with currentHp := (hurt side log).currentHp }) ∧
      (∀ side, d.battle.combatant? side = some (hurt side d.log)) ∧
      (∀ dt early e f rest, d.battle.told dt = early ++ (e, f) :: rest →
        ∀ side, f.combatants.get side = hurt side (d.log ++ early.map (·.1) ++ [e])) ∧
      ∀ early attacker defender attack damage defenderHp rest,
        d.log = early ++ .damageApplied attacker defender attack damage defenderHp :: rest →
          damage.isNaN = false ∧ 0 ≤ damage ∧
            defenderHp = ((hurt defender early).takeDamage damage).currentHp := by
  intro d built hurt
  have hurt_eq (side : Side) (log : List Event) : (built.replay log).get side = hurt side log :=
    built.get_replay log side
  obtain ⟨f₀, hf₀, started⟩ := start_accounted idle present sparing
  obtain ⟨f, hf, accounted⟩ := (Fight.Accounted.kept _ built).calls_fight rfl hf₀ started same
  refine ⟨fun side => by cases side <;> rfl, fun side log => Combatant.foldl_takeDamage _ _,
    fun side => ?_, fun dt early e g rest split side => ?_,
    fun early attacker defender attack damage defenderHp rest split => ?_⟩
  · rw [Battle.combatant?, hf, ← hurt_eq, ← accounted.combatants]
    rfl
  · cases hstage : d.battle.stage with
    | idle | ended => simp [Battle.told, hstage] at split
    | fighting f' =>
      rw [hstage] at hf
      cases hf
      have faithful : Faithful _ (Fight.tickTold d.battle.arena _ dt) := accounted.spares.faithful_tick dt
      rw [← Battle.told_fighting hstage, split, faithful_append, accounted.combatants] at faithful
      rw [← hurt_eq, PerSide.replay_append, PerSide.replay_append, faithful.2.1]
      rfl
  · have told := accounted.truthful
    rw [split, truthful_append] at told
    obtain ⟨-, ⟨nonneg, left⟩, -⟩ := told
    refine ⟨(Float32.isNaN_of_le nonneg).2, nonneg, ?_⟩
    rw [left, ← hurt_eq]
    cases defender <;> rfl

end Course

/-- A fight in which each side stands a few hits of the other. -/
def spar (forests : List Forest) : BattleSetup where
  player := { name := "Hero", maxHp := 50, attack := 4, speedRate := 10 }
  enemy := some { name := "Ogre", maxHp := 30, attack := 6, speedRate := 10 }
  forests := forests
  maskCount := 1

/-- Adds to the first two attacks of a battle, and restores mana when it is bound. -/
def whetstone : Forest :=
  let (_, F) := (Forest.empty "whetstone").addGate none { condition := .firstActions 2 }
  let (_, F) := F.addEffect (some 0) (.attackField .rawAttack 3)
  (F.addEffect none (.restoreMana 2)).2

/-- After two rounds of a spar with a whetstone the log tells of two hits on the enemy, and the enemy has the
HP that they leave. -/
theorem spar_by_log :
    let c : Course Unit := .new { critEnabled := false } ()
    let d := (c.call (.start (spar [whetstone]))).calls [.tick 1, .tick 1]
    c.battle.isFighting = false ∧ whetstone.sparesCombatants = true ∧
      (c.call (.start (spar [whetstone]))).battle.startsNone [.tick 1, .tick 1] = true ∧
      damagesTo .enemy d.log = [7, 4] ∧
      (d.battle.combatant? .enemy).map (·.currentHp) = some 19 := by
  intro c d
  have sparing : whetstone.sparesCombatants = true := by decide +kernel
  have same : (c.call (.start (spar [whetstone]))).battle.startsNone [.tick 1, .tick 1] = true := by
    decide +kernel
  have hits : damagesTo .enemy d.log = [7, 4] := by decide +kernel
  obtain ⟨-, -, now, -⟩ := Course.hit_points_of_log c rfl (spar [whetstone]) _ rfl
    (fun F hF => List.mem_singleton.1 hF ▸ sparing) [.tick 1, .tick 1] same
  refine ⟨rfl, sparing, same, hits, ?_⟩
  have left : d.battle.combatant? .enemy =
      some ((damagesTo .enemy d.log).foldl Combatant.takeDamage (.ofProfile _)) := now .enemy
  rw [left, hits]
  decide +kernel

end Masquerade
