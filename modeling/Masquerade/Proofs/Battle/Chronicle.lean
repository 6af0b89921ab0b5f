import Masquerade.Proofs.Battle.Course

/-!
# The chronicle of a battle

The events since a start tell a story of fixed shape: who met, then the attacks in the order of their
numbers, three events for each, and then the end if there was one. The story and the counters say the
same (`Chronicle`). Every call keeps this, and so it holds in every course of a battle
(`calls_chronicle`).
-/

namespace Masquerade

variable {σ : Type} {arena : Arena σ}

/-! ## Stories -/

/-- What the events of an attack tell besides its number. -/
structure AttackRecord where
  attacker : Side
  /-- The attack as its pipeline finds it. -/
  announced : Attack
  /-- The attack as its pipeline leaves it. -/
  settled : Attack
  defenderHp : Float32

/-- The three events of the attack of a given number. -/
def AttackRecord.events (r : AttackRecord) (number : UInt32) : List Event :=
  [.beforeAttack r.attacker number r.announced, .afterAttack r.attacker number r.settled,
    .damageApplied r.attacker r.attacker.opposite r.settled r.settled.damage r.defenderHp]

/-- The events of attacks that come after the first `n`. -/
def numbered (n : Nat) (attacks : List AttackRecord) : List Event :=
  (attacks.zipIdx (n + 1)).flatMap fun (r, k) => r.events (UInt32.ofNat k)

/-- The events of the end of a fight with `n` attacks. -/
def lastEvents (n : Nat) : Option Outcome → List Event
  | none => []
  | some outcome => [.ended (UInt32.ofNat n), outcome.event]

/-- The attacks of one side. -/
def attacksOf (side : Side) (attacks : List AttackRecord) : Nat :=
  attacks.countP (·.attacker = side)

/-- The counters after the given attacks. -/
def tally (attacks : List AttackRecord) : BattleCounters where
  actions := UInt32.ofNat attacks.length
  attacks := ⟨UInt32.ofNat (attacksOf .player attacks), UInt32.ofNat (attacksOf .enemy attacks)⟩

theorem numbered_cons (n : Nat) (r : AttackRecord) (rest : List AttackRecord) :
    numbered n (r :: rest) = r.events (UInt32.ofNat (n + 1)) ++ numbered (n + 1) rest :=
  rfl

theorem numbered_append (n : Nat) (first rest : List AttackRecord) :
    numbered n (first ++ rest) = numbered n first ++ numbered (n + first.length) rest := by
  rw [numbered, List.zipIdx_append, List.flatMap_append, Nat.add_right_comm]
  rfl

theorem tally_concat (attacks : List AttackRecord) (r : AttackRecord) :
    tally (attacks ++ [r]) = (tally attacks).record r.attacker := by
  cases h : r.attacker <;>
    simp [tally, attacksOf, BattleCounters.record, PerSide.modify, h, UInt32.ofNat_add]

theorem attacksOf_le_length (side : Side) (attacks : List AttackRecord) :
    attacksOf side attacks ≤ attacks.length :=
  List.countP_le_length

theorem attacksOf_add (attacks : List AttackRecord) :
    attacksOf .player attacks + attacksOf .enemy attacks = attacks.length := by
  induction attacks with
  | nil => rfl
  | cons r rest ih =>
    cases h : r.attacker <;> simp [attacksOf, h] at ih ⊢ <;> omega

/-- Below the bound of the counters, the counters are the numbers of attacks. -/
theorem tally_toNat {attacks : List AttackRecord} (h : attacks.length < UInt32.size) :
    (tally attacks).actions.toNat = attacks.length ∧
      ∀ side, ((tally attacks).attacks.get side).toNat = attacksOf side attacks := by
  refine ⟨UInt32.toNat_ofNat_of_lt' h, fun side => ?_⟩
  have bound : attacksOf side attacks < UInt32.size :=
    Nat.lt_of_le_of_lt (attacksOf_le_length side attacks) h
  cases side <;> exact UInt32.toNat_ofNat_of_lt' bound

/-! ## The story of an exchange -/

/-- What the events of a blow tell besides its number. -/
def Blow.record (arena : Arena σ) (b : Blow σ) : AttackRecord :=
  ⟨b.side, b.modified, b.settled arena, b.defenderHp arena⟩

theorem Blow.events_eq (b : Blow σ) :
    b.events arena = (b.record arena).events b.number :=
  rfl

/-- The attacks of an exchange are numbered on from the attacks before it, and counted. -/
theorem Exchange.numbered {f : Fight σ} {blows : List (Blow σ)} (h : Exchange arena f blows)
    {before : List AttackRecord} (hf : f.counters = tally before) :
    blows.flatMap (·.events arena) =
        numbered before.length (blows.map (·.record arena)) ∧
      (f.after arena blows).counters = tally (before ++ blows.map (·.record arena)) := by
  induction h generalizing before with
  | still f => exact ⟨rfl, by simpa using hf⟩
  | @blow f side rest undecided ready later ih =>
    -- the first attack is counted before the others are made, so they are numbered on from it
    have counted : (Blow.resolved arena ⟨side, f.spendGauge arena side⟩).counters =
        tally (before ++ [Blow.record arena ⟨side, f.spendGauge arena side⟩]) := by
      rw [tally_concat, ← hf]
      rfl
    have number : Blow.number ⟨side, f.spendGauge arena side⟩ =
        UInt32.ofNat (before.length + 1) := by
      show f.counters.actions + 1 = _
      rw [hf, UInt32.ofNat_add]
      rfl
    obtain ⟨events, counters⟩ := ih counted
    refine ⟨?_, ?_⟩
    · rw [List.flatMap_cons, events, Blow.events_eq, number, List.map_cons, numbered_cons]
      simp
    · rw [Fight.after_cons, counters]
      simp

theorem Fight.exists_fight_stage (f : Fight σ) :
    ∃ f', f.stage.fight? = some f' ∧ f'.counters = f.counters ∧ f'.gauges = f.gauges ∧
      f'.clock = f.clock := by
  rw [Fight.stage]
  split
  · exact ⟨f.closed, rfl, rfl, rfl, rfl⟩
  · exact ⟨f, rfl, rfl, rfl, rfl⟩

/-- The end of a tick tells the outcome, if there is one. -/
theorem Fight.closing_events {f : Fight σ} {n : Nat} (h : f.counters.actions = UInt32.ofNat n) :
    f.closing.map (·.1) = lastEvents n f.stage.outcome? := by
  by_cases decided : f.combatants.isDecided = true
  · rw [closing, if_pos decided, Fight.stage, if_pos decided, h]
    rfl
  · rw [Bool.not_eq_true] at decided
    rw [closing_of_undecided decided, stage_of_undecided decided]
    rfl

namespace Battle

/-- The events of a tick tell of more attacks, each side's at most one and the player's first, and of
the end if it has come. -/
theorem tick_numbered {b : Battle σ} {f : Fight σ} (hb : b.stage = .fighting f)
    {before : List AttackRecord} (hf : f.counters = tally before) (dt : Float32) :
    ∃ attacks f', (b.tick dt).2.stage.fight? = some f' ∧ f'.counters = tally (before ++ attacks) ∧
      (b.tick dt).1 = numbered before.length attacks ++
        lastEvents (before.length + attacks.length) (b.tick dt).2.stage.outcome? ∧
      (attacks.map (·.attacker)).Sublist Side.order := by
  have start : (f.tickStart dt).counters = tally before := by rw [Fight.tickStart_counters, hf]
  obtain ⟨events, counters⟩ := (f.tickBlows_exchange b.arena dt).numbered start
  obtain ⟨f', stage, counters', -⟩ := (f.tickEnd b.arena dt).exists_fight_stage
  have actions : (f.tickEnd b.arena dt).counters.actions =
      UInt32.ofNat (before.length + (f.tickBlows b.arena dt).length) := by
    rw [Fight.tickEnd, counters]
    simp [tally]
  rw [tick_fighting hb]
  refine ⟨(f.tickBlows b.arena dt).map (·.record b.arena), f', stage, ?_, ?_, ?_⟩
  · rw [counters']
    exact counters
  · show (f.tickTold b.arena dt).map (·.1) = _
    rw [Fight.tickTold, List.map_append, List.map_flatMap, Fight.closing_events actions, ← events,
      List.length_map]
    rfl
  · rw [List.map_map]
    exact f.tickBlows_sides b.arena dt

end Battle

/-! ## The chronicle -/

/-- Before the first start nothing has been told. From then on the log is the story of the last fight,
and its counters count the attacks of the story. -/
inductive Chronicle (c : Course σ) : Prop where
  | unstarted (stage : c.battle.stage.fight? = none) (log : c.log = [])
  | told (f : Fight σ) (player enemy : String) (attacks : List AttackRecord)
      (stage : c.battle.stage.fight? = some f) (counters : f.counters = tally attacks)
      (log : c.log = [.entered player enemy, .started] ++ numbered 0 attacks ++
        lastEvents attacks.length c.battle.stage.outcome?)

namespace Chronicle

variable {c : Course σ}

/-- A battle at the same stage has the same chronicle. -/
theorem of_same (h : Chronicle c) {b : Battle σ} (hb : b.stage = c.battle.stage) :
    Chronicle ⟨b, c.log⟩ := by
  cases h with
  | unstarted stage log => exact .unstarted ((congrArg Stage.fight? hb).trans stage) log
  | told f player enemy attacks stage counters log =>
    refine .told f player enemy attacks ((congrArg Stage.fight? hb).trans stage) counters ?_
    rw [hb]
    exact log

/-- A fight under way has no outcome yet. -/
theorem of_fighting (h : Chronicle c) {f : Fight σ} (hc : c.battle.stage = .fighting f) :
    ∃ player enemy attacks, f.counters = tally attacks ∧
      c.log = [.entered player enemy, .started] ++ numbered 0 attacks := by
  cases h with
  | unstarted stage log =>
    rw [hc] at stage
    cases stage
  | told f' player enemy attacks stage counters log =>
    rw [hc] at stage log
    cases stage
    refine ⟨player, enemy, attacks, counters, ?_⟩
    rw [log]
    exact List.append_nil _

theorem call (h : Chronicle c) (x : Call σ) : Chronicle (c.call x) := by
  cases c.battle.reaction x with
  | started setup enemy call present accepted idle events stage =>
    refine .told _ setup.player.name enemy.name [] (congrArg Stage.fight? stage) rfl ?_
    show (if c.battle.starts x then _ else _) = _
    rw [if_pos accepted, events]
    show _ = _ ++ lastEvents 0 (c.battle.call x).2.stage.outcome?
    rw [stage]
    rfl
  | ticked dt f fighting refused same =>
    -- the attacks of the tick go on where the story has stopped
    obtain ⟨player, enemy, before, counters, log⟩ := h.of_fighting fighting
    obtain ⟨attacks, f', stage, counters', events, -⟩ := Battle.tick_numbered fighting counters dt
    rw [Course.call, refused, same]
    refine .told f' player enemy (before ++ attacks) stage counters' ?_
    show c.log ++ (c.battle.tick dt).1 = _
    rw [log, events, numbered_append, List.length_append]
    simp
  | stopped f fighting refused events stage =>
    obtain ⟨player, enemy, attacks, counters, log⟩ := h.of_fighting fighting
    rw [Course.call, refused, events]
    refine .told f player enemy attacks (congrArg Stage.fight? stage) counters ?_
    show c.log ++ [] = _ ++ lastEvents attacks.length (c.battle.call x).2.stage.outcome?
    rw [log, stage]
    rfl
  | unchanged refused events stage =>
    rw [Course.call, refused, events]
    show Chronicle ⟨(c.battle.call x).2, c.log ++ []⟩
    rw [List.append_nil]
    exact h.of_same stage

end Chronicle

/-- Every course of a battle has a chronicle. -/
theorem calls_chronicle (ruleset : Ruleset) (memory : σ) (calls : List (Call σ)) :
    Chronicle ((Course.new ruleset memory).calls calls) :=
  Course.calls_induction (fun _ x h => h.call x) (.unstarted rfl rfl) calls

/-- An outcome ends the fight. -/
theorem Battle.not_isFighting_of_outcome {b : Battle σ} (h : b.stage.outcome? ≠ none) :
    b.isFighting = false := by
  cases hb : b.stage with
  | fighting f => simp [hb, Stage.outcome?] at h
  | idle | ended => simp [isFighting, hb]

namespace Course

/-- After any calls, the log is empty if no start has succeeded yet. Otherwise it is the story of the
fight since the last start that has: the meeting, the attacks with their numbers from one on, and the
outcome if there is one; and the counters are the numbers of attacks. A tick adds at most one attack
of each side, the player's first. After an outcome or a stop nothing is emitted until a start
succeeds. -/
theorem log_eq_story (ruleset : Ruleset) (memory : σ) (calls : List (Call σ)) :
    let c := (Course.new ruleset memory).calls calls
    ((c.battle.stage.fight? = none ∧ c.log = [] ∧ c.battle.counters = {}) ∨
      ∃ player enemy attacks,
        c.log = [.entered player enemy, .started] ++ numbered 0 attacks ++
          lastEvents attacks.length c.battle.stage.outcome? ∧
        (attacks.length < UInt32.size →
          c.battle.counters.actions.toNat = attacks.length ∧
          ∀ side, (c.battle.counters.attacks.get side).toNat = attacksOf side attacks) ∧
        attacksOf .player attacks + attacksOf .enemy attacks = attacks.length ∧
        ∀ dt, c.battle.isFighting = true → ∃ more,
          (c.battle.tick dt).1 = numbered attacks.length more ++
            lastEvents (attacks.length + more.length) (c.battle.tick dt).2.stage.outcome? ∧
          (more.map (·.attacker)).Sublist [.player, .enemy]) ∧
    (c.battle.stage.outcome? ≠ none → c.battle.isFighting = false) ∧
    c.battle.stop.isFighting = false ∧
    (c.battle.isFighting = false → ∀ later,
      (∀ early x rest, later = early ++ x :: rest → (c.calls early).battle.starts x = false) →
      (c.calls later).log = c.log) := by
  intro c
  refine ⟨?_, Battle.not_isFighting_of_outcome, c.battle.stop_isFighting,
    fun idle later refused => (calls_quiet idle later refused).1⟩
  cases calls_chronicle ruleset memory calls with
  | unstarted stage log =>
    refine .inl ⟨stage, log, ?_⟩
    rw [Battle.counters, stage]
    rfl
  | told f player enemy attacks stage counters log =>
    have counted : c.battle.counters = tally attacks := by
      rw [Battle.counters, stage, ← counters]
      rfl
    refine .inr ⟨player, enemy, attacks, log, ?_, attacksOf_add attacks, ?_⟩
    · rw [counted]
      exact tally_toNat
    · intro dt fighting
      obtain ⟨g, hg⟩ := Battle.exists_fight fighting
      -- the fight under way is the fight that the chronicle speaks of
      have same : g = f := by
        rw [hg] at stage
        exact Option.some.inj stage
      obtain ⟨more, f', -, -, events, sides⟩ :=
        Battle.tick_numbered hg (same ▸ counters) dt
      exact ⟨more, events, sides⟩

end Course

end Masquerade
