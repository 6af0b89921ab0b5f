import Masquerade.Proofs.Battle.Course

/-!
# The fallen

A fight is decided when a side has fallen. No attack is made in a decided fight, and a tick that finds
or leaves a fight decided ends it (`attacks_among_living`). What counts is how an attack leaves the
fight once the effects after its damage have run: a hit that takes the last HP ends the fight unless
these effects bring the defender back (`lethal_blow`).
-/

namespace Masquerade

variable {σ : Type} {arena : Arena σ}

/-! ## Decided fights -/

theorem PerSide.isDecided_eq_true_iff (cs : PerSide Combatant) :
    cs.isDecided = true ↔ ∃ side, (cs.get side).isDead = true := by
  rw [PerSide.isDecided, Bool.or_eq_true]
  constructor
  · rintro (h | h)
    · exact ⟨.player, h⟩
    · exact ⟨.enemy, h⟩
  · rintro ⟨_ | _, h⟩
    · exact .inl h
    · exact .inr h

theorem PerSide.isDecided_eq_false_iff (cs : PerSide Combatant) :
    cs.isDecided = false ↔ ∀ side, (cs.get side).isDead = false := by
  rw [← Bool.not_eq_true, PerSide.isDecided_eq_true_iff, not_exists]
  simp only [Bool.not_eq_true]

namespace Exchange

variable {f : Fight σ} {blows : List (Blow σ)}

/-- No attack of an exchange is made in a decided fight. -/
theorem undecided (h : Exchange arena f blows) :
    ∀ b ∈ blows, b.fight.combatants.isDecided = false := by
  induction h with
  | still f => simp
  | @blow f side rest undecided ready later ih =>
    intro b hb
    rcases List.mem_cons.1 hb with rfl | hb
    · exact undecided
    · exact ih b hb

/-- An attack that decides the fight is the last of its exchange. -/
theorem eq_nil_of_decided {early late : List (Blow σ)} {b : Blow σ}
    (h : Exchange arena f (early ++ b :: late))
    (decided : (b.resolved arena).combatants.isDecided = true) : late = [] := by
  induction early generalizing f with
  | nil =>
    cases h with
    | blow _ _ later =>
      -- a further attack would be made in a decided fight
      cases later with
      | still => rfl
      | blow undecided => simp [decided] at undecided
  | cons a early ih =>
    cases h with
    | blow _ _ later => exact ih later

end Exchange

theorem Fight.after_concat (f : Fight σ) (early : List (Blow σ)) (b : Blow σ) :
    f.after arena (early ++ [b]) = b.resolved arena := by
  rw [Fight.after, List.foldl_append]
  rfl

/-! ## Attacks among the living -/

/-- When an attack of a tick is announced, both sides are alive. -/
theorem Battle.announced_living {b : Battle σ} {dt : Float32} {attacker : Side} {number : UInt32}
    {attack : Attack} {f : Fight σ} (h : (.beforeAttack attacker number attack, f) ∈ b.told dt)
    (side : Side) : (f.combatants.get side).isDead = false := by
  cases hb : b.stage with
  | idle | ended => simp [told, hb] at h
  | fighting g =>
    rw [told_fighting hb, Fight.tickTold] at h
    rcases List.mem_append.1 h with h | h
    · obtain ⟨blow, hblow, h⟩ := List.mem_flatMap.1 h
      -- of the three events of an attack only the first announces it
      have announced : f = blow.announced := by
        simp only [Blow.told, List.mem_cons, Prod.mk.injEq, reduceCtorEq, false_and, or_false,
          List.not_mem_nil] at h
        exact h.2
      rw [announced, Blow.announced_combatants]
      have undecided := (g.tickBlows_exchange b.arena dt).undecided blow hblow
      exact (PerSide.isDecided_eq_false_iff _).1 undecided side
    · exfalso
      rw [Fight.closing] at h
      split at h
      · cases ho : (g.tickEnd b.arena dt).closed.outcome <;> simp [ho, Outcome.event] at h
      · cases h

/-- A fight that goes on after a tick is not decided. -/
theorem Battle.undecided_of_tick {b : Battle σ} {dt : Float32} {f : Fight σ}
    (h : (b.tick dt).2.stage = .fighting f) : f.combatants.isDecided = false := by
  cases hb : b.stage with
  | idle | ended => simp [tick, hb] at h
  | fighting g =>
    rw [tick_fighting hb] at h
    change (g.tickEnd b.arena dt).stage = .fighting f at h
    rw [Fight.stage] at h
    split at h
    · cases h
    · next undecided =>
      cases h
      exact Bool.eq_false_iff.2 undecided

/-- A decided fight is ended by its next tick, without an attack. -/
theorem Battle.tick_decided {b : Battle σ} {f : Fight σ} (hb : b.stage = .fighting f)
    (decided : f.combatants.isDecided = true) (dt : Float32) :
    (b.tick dt).1 = [.ended f.counters.actions, f.closed.outcome.event] ∧
      (b.tick dt).2.isFighting = false := by
  have h : b.tick dt = (f.conclude.1, { b with stage := f.conclude.2 }) := by
    simp only [tick, hb, Fight.tick, decided, if_true]
  rw [h]
  exact ⟨rfl, rfl⟩

/-- In a decided fight that is still under way nothing has been counted. -/
def Course.DecidedEarly (c : Course σ) : Prop :=
  ∀ f, c.battle.stage = .fighting f → f.combatants.isDecided = true → f.counters = {}

/-- Every call leaves decided fights under way without a count. -/
theorem Course.DecidedEarly.call {c : Course σ} (h : c.DecidedEarly) (x : Call σ) :
    (c.call x).DecidedEarly := by
  intro f hf decided
  change (c.battle.call x).2.stage = .fighting f at hf
  cases c.battle.reaction x with
  | started setup enemy call present accepted idle events stage =>
    rw [stage] at hf
    cases hf
    rfl
  | ticked dt g fighting refused same =>
    -- the tick would have ended the fight
    rw [same] at hf
    have undecided := Battle.undecided_of_tick hf
    simp [decided] at undecided
  | stopped g fighting refused events stage =>
    rw [stage] at hf
    cases hf
  | unchanged refused events stage =>
    rw [stage] at hf
    exact h f hf decided

theorem Course.calls_decidedEarly (ruleset : Ruleset) (memory : σ) (calls : List (Call σ)) :
    ((Course.new ruleset memory).calls calls).DecidedEarly := by
  refine Course.calls_induction (fun _ x h => h.call x) ?_ calls
  intro f hf
  cases hf

/-- Whatever calls have been made, when a tick announces an attack, both sides are alive; when it
leaves the fight under way, both sides are alive; and a fight under way in which a side has fallen
has seen no attack yet, and is ended by the tick without one. -/
theorem Course.attacks_among_living (ruleset : Ruleset) (memory : σ) (calls : List (Call σ))
    (dt : Float32) :
    let b := ((Course.new ruleset memory).calls calls).battle
    (b.told dt).map (·.1) = (b.tick dt).1 ∧
    (∀ attacker number attack f, (.beforeAttack attacker number attack, f) ∈ b.told dt →
      ∀ side, (f.combatants.get side).isDead = false) ∧
    (∀ f, (b.tick dt).2.stage = .fighting f → ∀ side, (f.combatants.get side).isDead = false) ∧
    (∀ f side, b.stage = .fighting f → (f.combatants.get side).isDead = true →
      f.counters = {} ∧
      (∃ outcome, (b.tick dt).1 = [.ended 0, Outcome.event outcome]) ∧
      (b.tick dt).2.isFighting = false) := by
  intro b
  refine ⟨b.map_told dt, fun _ _ _ _ h => Battle.announced_living h, fun f h => ?_,
    fun f side hb dead => ?_⟩
  · exact (PerSide.isDecided_eq_false_iff _).1 (Battle.undecided_of_tick h)
  · have decided := (PerSide.isDecided_eq_true_iff f.combatants).2 ⟨side, dead⟩
    have counters := Course.calls_decidedEarly ruleset memory calls f hb decided
    obtain ⟨events, ended⟩ := Battle.tick_decided hb decided dt
    refine ⟨counters, ⟨f.closed.outcome, ?_⟩, ended⟩
    rw [events, counters]

/-! ## Lethal hits -/

/-- Whether the event tells of a hit that has taken the defender's last HP. -/
def Event.isLethal : Event → Bool
  | .damageApplied _ _ _ _ defenderHp => defenderHp ≤ 0
  | _ => false

def Event.isEnding : Event → Bool
  | .ended _ => true
  | _ => false

/-- A lethal event of an attack is its last one, and tells the fight as the damage has left it. -/
theorem Blow.told_of_isLethal {b : Blow σ} {e : Event} (he : e ∈ b.events arena)
    (lethal : e.isLethal = true) : (e, b.struck arena) ∈ b.told arena := by
  simp only [Blow.events, Blow.told, List.map_cons, List.map_nil, List.mem_cons, List.not_mem_nil,
    or_false] at he
  rcases he with rfl | rfl | rfl
  · cases lethal
  · cases lethal
  · simp [Blow.told]

theorem Blow.isEnding_of_mem {b : Blow σ} {e : Event} (he : e ∈ b.events arena) :
    e.isEnding = false := by
  simp only [Blow.events, Blow.told, List.map_cons, List.map_nil, List.mem_cons, List.not_mem_nil,
    or_false] at he
  rcases he with rfl | rfl | rfl <;> rfl

theorem Fight.isLethal_of_mem_closing {f : Fight σ} {e : Event}
    (he : e ∈ f.closing.map (·.1)) : e.isLethal = false := by
  rw [Fight.closing] at he
  split at he
  · simp only [List.map_cons, List.map_nil, List.mem_cons, List.not_mem_nil, or_false] at he
    rcases he with rfl | rfl
    · rfl
    · cases f.closed.outcome <;> rfl
  · cases he

/-- A tick whose attacks have decided the fight ends the battle. -/
theorem Battle.tick_ends {b : Battle σ} {f : Fight σ} (hb : b.stage = .fighting f) {dt : Float32}
    (decided : (f.tickEnd b.arena dt).combatants.isDecided = true) :
    (∃ e ∈ (b.tick dt).1, e.isEnding = true) ∧ (b.tick dt).2.isFinished = true := by
  rw [tick_fighting hb]
  refine ⟨⟨.ended (f.tickEnd b.arena dt).counters.actions, ?_, rfl⟩, ?_⟩
  · simp [Fight.tickTold, Fight.closing, decided]
  · simp [isFinished, Fight.stage, decided]

/-- A tick whose attacks have not decided the fight does not end the battle. -/
theorem Battle.tick_goes_on {b : Battle σ} {f : Fight σ} (hb : b.stage = .fighting f)
    {dt : Float32} (undecided : (f.tickEnd b.arena dt).combatants.isDecided = false) :
    (∀ e ∈ (b.tick dt).1, e.isEnding = false) ∧ (b.tick dt).2.isFighting = true := by
  rw [tick_fighting hb]
  refine ⟨fun e he => ?_, ?_⟩
  · change e ∈ (f.tickTold b.arena dt).map (·.1) at he
    rw [Fight.tickTold, Fight.closing_of_undecided undecided, List.append_nil, List.map_flatMap] at he
    obtain ⟨blow, -, he⟩ := List.mem_flatMap.1 he
    exact Blow.isEnding_of_mem he
  · simp [isFighting, Fight.stage_of_undecided undecided]

/-- A hit that takes the last HP ends the battle in the same tick, and is the last of the tick, if a
side is dead once the effects after its damage have run. If these effects leave both sides alive and
no other attack follows, the tick does not end the battle. -/
theorem Battle.lethal_blow (b : Battle σ) (dt : Float32) (e : Event) (he : e ∈ (b.tick dt).1)
    (lethal : e.isLethal = true) :
    ∃ early blow late, b.blows dt = early ++ blow :: late ∧
      (e, blow.struck b.arena) ∈ blow.told b.arena ∧
      ((∃ side, ((blow.resolved b.arena).combatants.get side).isDead = true) →
        late = [] ∧ (∃ e' ∈ (b.tick dt).1, e'.isEnding = true) ∧
          (b.tick dt).2.isFinished = true) ∧
      ((∀ side, ((blow.resolved b.arena).combatants.get side).isDead = false) → late = [] →
        (∀ e' ∈ (b.tick dt).1, e'.isEnding = false) ∧ (b.tick dt).2.isFighting = true) := by
  cases hb : b.stage with
  | idle | ended => simp [tick, hb] at he
  | fighting f =>
    rw [← map_told, told_fighting hb, Fight.tickTold, List.map_append, List.map_flatMap] at he
    rcases List.mem_append.1 he with he | he
    · obtain ⟨blow, hblow, he⟩ := List.mem_flatMap.1 he
      obtain ⟨early, late, split⟩ := List.append_of_mem hblow
      -- if no attack follows, the tick ends as the attack has left the fight
      have ending : late = [] → f.tickEnd b.arena dt = blow.resolved b.arena := by
        rintro rfl
        rw [Fight.tickEnd, split, Fight.after_concat]
      refine ⟨early, blow, late, ?_, Blow.told_of_isLethal he lethal, fun dead => ?_,
        fun living last => ?_⟩
      · rw [blows_fighting hb, split]
      · have decided := (PerSide.isDecided_eq_true_iff _).2 dead
        have exchange := f.tickBlows_exchange b.arena dt
        rw [split] at exchange
        have last := exchange.eq_nil_of_decided decided
        exact ⟨last, tick_ends hb (by rw [ending last]; exact decided)⟩
      · have undecided := (PerSide.isDecided_eq_false_iff _).2 living
        exact tick_goes_on hb (by rw [ending last]; exact undecided)
    · have harmless := Fight.isLethal_of_mem_closing he
      simp [lethal] at harmless

/-- A fight in which the enemy's first hit takes all HP of the player. -/
def duel (forests : List Forest) : BattleSetup where
  player := { name := "Hero", maxHp := 5, speedRate := 0 }
  enemy := some { name := "Ogre", attack := 10, speedRate := 10 }
  forests := forests
  maskCount := 1

/-- Gives the defender HP after the damage of every attack. -/
def salve : Forest := ((Forest.empty "salve").addEffect none (.adjustHp .defender (.flat 3))).2

def duelling (forests : List Forest) : Battle Unit :=
  ((Course.new { critEnabled := false } ()).calls [.start (duel forests)]).battle

/-- Without effects the first hit of a duel ends the battle. -/
theorem lethal_blow_ends_duel :
    (∃ e ∈ ((duelling []).tick 1).1, e.isLethal = true) ∧
      ((duelling []).tick 1).2.isFinished = true := by
  have hit : ∃ e ∈ ((duelling []).tick 1).1, e.isLethal = true := by decide +kernel
  have dead : ∀ blow ∈ (duelling []).blows 1,
      (blow.resolved (duelling []).arena).combatants.isDecided = true := by decide +kernel
  obtain ⟨e, he, lethal⟩ := hit
  obtain ⟨early, blow, late, split, -, ends, -⟩ := Battle.lethal_blow (duelling []) 1 e he lethal
  have hblow : blow ∈ (duelling []).blows 1 := by simp [split]
  exact ⟨⟨e, he, lethal⟩, (ends ((PerSide.isDecided_eq_true_iff _).1 (dead blow hblow))).2.2⟩

/-- A hit that takes the last HP does not always end the battle: a salve brings the defender back. -/
theorem lethal_hit_survived :
    ¬ ∀ (calls : List (Call Unit)) (dt : Float32),
      let b := ((Course.new { critEnabled := false } ()).calls calls).battle
      ∀ e ∈ (b.tick dt).1, e.isLethal = true →
        (∃ e' ∈ (b.tick dt).1, e'.isEnding = true) ∧ (b.tick dt).2.isFinished = true := by
  intro law
  have hit : ∃ e ∈ ((duelling [salve]).tick 1).1, e.isLethal = true := by decide +kernel
  have unfinished : ((duelling [salve]).tick 1).2.isFinished = false := by decide +kernel
  obtain ⟨e, he, lethal⟩ := hit
  have finished := (law [.start (duel [salve])] 1 e he lethal).2
  change ((duelling [salve]).tick 1).2.isFinished = true at finished
  simp [unfinished] at finished

end Masquerade
