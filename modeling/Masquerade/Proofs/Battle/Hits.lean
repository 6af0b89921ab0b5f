import Masquerade.Proofs.Battle.Fallen
import Masquerade.Proofs.Battle.Moments

/-!
# Hits over a battle

A gate on the hits that a side has taken reckons with the hits landed and with the hit in flight. Along
the moments of a battle this number is the number of attacks on the side that have begun so far
(`Timeline.hitsReckoned`). So it never falls, and a gate that has opened stays open
(`Diary.hits_never_fall`).
-/

namespace Masquerade

open RandomWords (Stream)

variable {σ : Type} {arena : Arena σ}

/-- The hits on `target` that a gate reckons with at a moment, if a battle is going on. -/
def Moment.hitsReckoned? (m : Moment) (target : Side) : Option UInt32 :=
  m.hits.map (m.hitsOn · target)

theorem Gate.judge_afterHits {m : Moment} (awake : m.phase ≠ .description) {hits : UInt32}
    (positive : hits ≠ 0) {target : Side} {reckoned : UInt32}
    (known : m.hitsReckoned? target = some reckoned) (invert : Bool) (counter : UInt32)
    (rng : Stream) :
    judge ⟨.afterHits target hits, invert⟩ counter m rng =
      ⟨decide (hits ≤ reckoned) == invert, counter, rng⟩ := by
  obtain ⟨landed, present, rfl⟩ := Option.map_eq_some_iff.1 known
  simp only [judge, if_neg awake, if_neg positive, present]
  rfl

def Moment.beginsAttack (m : Moment) : Bool := m.phase = .attackModify

def Moment.beginsAttackOn (target : Side) (m : Moment) : Bool :=
  m.beginsAttack && m.defender = some target

/-- The attacks on `target` that begin in the given moments. -/
def attacksOn (target : Side) (ms : List Moment) : Nat := ms.countP (·.beginsAttackOn target)

theorem attacksOn_append (target : Side) (ms more : List Moment) :
    attacksOn target (ms ++ more) = attacksOn target ms + attacksOn target more :=
  List.countP_append

theorem attacksOn_le (target : Side) (ms : List Moment) :
    attacksOn target ms ≤ ms.countP (·.beginsAttack) := by
  refine List.countP_mono_left fun m _ h => ?_
  rw [Moment.beginsAttackOn, Bool.and_eq_true] at h
  exact h.1

theorem attacksOn_take_le (target : Side) (ms : List Moment) {i j : Nat} (h : i ≤ j) :
    attacksOn target (ms.take i) ≤ attacksOn target (ms.take j) :=
  (List.take_prefix_take_left h).sublist.countP_le

/-- At each of the given moments as many hits are reckoned with as attacks on `target` have begun. -/
def Reckons (target : Side) (ms : List Moment) : Prop :=
  ∀ i m, ms[i]? = some m →
    m.hitsReckoned? target = some (UInt32.ofNat (attacksOn target (ms.take (i + 1))))

theorem Reckons.concat {target : Side} {ms : List Moment} (h : Reckons target ms) {m : Moment}
    (hm : m.hitsReckoned? target = some (UInt32.ofNat (attacksOn target (ms ++ [m])))) :
    Reckons target (ms ++ [m]) := by
  intro i m' hm'
  rw [List.getElem?_append] at hm'
  split at hm'
  · next early =>
    rw [List.take_append_of_le_length early]
    exact h i m' hm'
  · next late =>
    obtain ⟨-, rfl⟩ : i - ms.length = 0 ∧ m = m' := by
      simpa [List.getElem?_singleton] using hm'
    rw [List.take_of_length_le (by simp; omega)]
    exact hm

theorem Reckons.exists_reckoned {target : Side} {ms : List Moment} (h : Reckons target ms)
    (few : ms.countP (·.beginsAttack) < UInt32.size) {i : Nat} {m : Moment}
    (hm : ms[i]? = some m) :
    ∃ reckoned, m.hitsReckoned? target = some reckoned ∧
      reckoned.toNat = attacksOn target (ms.take (i + 1)) := by
  have begun := (List.take_prefix (i + 1) ms).sublist.countP_le (p := (·.beginsAttackOn target))
  have all := attacksOn_le target ms
  refine ⟨_, h i m hm, UInt32.toNat_ofNat_of_lt' ?_⟩
  exact Nat.lt_of_le_of_lt begun (Nat.lt_of_le_of_lt all few)

/-- A moment of the attack that `attacker` makes after the given hits. -/
structure Moment.OfAttack (m : Moment) (hits : HitCounts) (attacker : Side) : Prop where
  defender : m.defender = some attacker.opposite
  number : m.attackNumber = hits.get attacker + 1
  hits : m.hits = some hits

/-- A moment between attacks, after the given hits. -/
structure Moment.Between (m : Moment) (hits : HitCounts) : Prop where
  defender : m.defender = none
  hits : m.hits = some hits

/-- The moments of a battle from its start on: two for every attack, and one for the end if the battle
is over. With them goes the number of hits that each side has landed. -/
inductive Timeline : Bool → HitCounts → List Moment → Prop
  | start {m : Moment} (phase : m.phase = .battleStart) (between : m.Between (.both 0)) :
      Timeline false (.both 0) [m]
  | attack {hits : HitCounts} {ms : List Moment} (before : Timeline false hits ms) {attacker : Side}
      {building applied : Moment} (buildingPhase : building.phase = .attackModify)
      (buildingOf : building.OfAttack hits attacker) (appliedPhase : applied.phase = .damageApplied)
      (appliedOf : applied.OfAttack hits attacker) :
      Timeline false (hits.modify attacker (· + 1)) (ms ++ [building, applied])
  | finish {hits : HitCounts} {ms : List Moment} (before : Timeline false hits ms) {m : Moment}
      (phase : m.phase = .battleEnd) (between : m.Between hits) : Timeline true hits (ms ++ [m])

theorem attacksOn_outside {m : Moment} (h : m.phase ≠ .attackModify) (target : Side) :
    attacksOn target [m] = 0 := by
  simp [attacksOn, Moment.beginsAttackOn, Moment.beginsAttack, h]

/-- An attack begins once, at the moment in which it is being built. -/
theorem attacksOn_attack {building : Moment} {hits : HitCounts} {attacker : Side}
    (phase : building.phase = .attackModify) (attack : building.OfAttack hits attacker)
    (target : Side) :
    attacksOn target [building] = if attacker.opposite = target then 1 else 0 := by
  simp [attacksOn, Moment.beginsAttackOn, Moment.beginsAttack, phase, attack.defender,
    List.countP_cons]

/-! ## Reckoning along a timeline -/

theorem Moment.Between.hitsReckoned? {m : Moment} {hits : HitCounts} (h : m.Between hits)
    (target : Side) : m.hitsReckoned? target = some (hits.receivedBy target) := by
  simp [Moment.hitsReckoned?, h.hits, hitsOn, h.defender]

/-- In an attack on `target` one more hit is reckoned with than has landed. -/
theorem Moment.OfAttack.hitsReckoned? {m : Moment} {hits : HitCounts} {attacker target : Side}
    (h : m.OfAttack hits attacker) {n : Nat} (landed : hits.receivedBy target = UInt32.ofNat n)
    (bound : attacker.opposite = target → n + 1 < UInt32.size) :
    m.hitsReckoned? target =
      some (UInt32.ofNat (n + if attacker.opposite = target then 1 else 0)) := by
  rw [Moment.hitsReckoned?, h.hits, Option.map_some, hitsOn, h.defender]
  by_cases own : attacker.opposite = target
  · have few := bound own
    subst own
    have same : hits.receivedBy attacker.opposite = hits.get attacker := by
      rw [PerSide.receivedBy, Side.opposite_opposite]
    have number : m.attackNumber = UInt32.ofNat (n + 1) := by
      rw [h.number, ← same, landed, UInt32.ofNat_add]
      rfl
    have more : UInt32.ofNat n < UInt32.ofNat (n + 1) := by
      rw [UInt32.lt_iff_toNat_lt, UInt32.toNat_ofNat_of_lt' (by omega),
        UInt32.toNat_ofNat_of_lt' few]
      omega
    simp only [landed, number, more, and_self, if_true]
  · simp [own, landed]

namespace Timeline

variable {ended : Bool} {hits : HitCounts} {ms : List Moment}

theorem phase_ne_description (h : Timeline ended hits ms) : ∀ m ∈ ms, m.phase ≠ .description := by
  induction h with
  | start phase between => simp [phase]
  | attack before buildingPhase buildingOf appliedPhase appliedOf ih =>
    intro m hm
    simp only [List.mem_append, List.mem_cons, List.not_mem_nil, or_false] at hm
    rcases hm with hm | rfl | rfl
    · exact ih m hm
    · simp [buildingPhase]
    · simp [appliedPhase]
  | finish before phase between ih =>
    intro m hm
    rcases List.mem_append.1 hm with hm | hm
    · exact ih m hm
    · simp [List.mem_singleton.1 hm, phase]

/-- The hits that a side has taken are the attacks on it. -/
theorem receivedBy_eq (h : Timeline ended hits ms) (target : Side) :
    hits.receivedBy target = UInt32.ofNat (attacksOn target ms) := by
  induction h with
  | start phase between =>
    rw [attacksOn_outside (by simp [phase])]
    cases target <;> rfl
  | @attack hits ms before attacker building applied buildingPhase buildingOf appliedPhase _ ih =>
    have one : attacksOn target [building, applied] = if attacker.opposite = target then 1 else 0 := by
      rw [← List.singleton_append, attacksOn_append, attacksOn_attack buildingPhase buildingOf,
        attacksOn_outside (by simp [appliedPhase]), Nat.add_zero]
    rw [attacksOn_append, one, UInt32.ofNat_add, ← ih]
    cases attacker <;> cases target <;>
      simp [PerSide.receivedBy, PerSide.modify, PerSide.get, Side.opposite]
  | finish before phase between ih =>
    rw [attacksOn_append, attacksOn_outside (by simp [phase]), Nat.add_zero]
    exact ih

/-- At every moment of a battle the hits reckoned with are the attacks begun so far. -/
theorem reckons (h : Timeline ended hits ms) (few : ms.countP (·.beginsAttack) < UInt32.size)
    (target : Side) : Reckons target ms := by
  induction h with
  | @start m phase between =>
    refine Reckons.concat (show Reckons target [] by simp [Reckons]) ?_
    rw [between.hitsReckoned?, List.nil_append, attacksOn_outside (by simp [phase])]
    cases target <;> rfl
  | @attack hits ms before attacker building applied buildingPhase buildingOf appliedPhase appliedOf ih =>
    rw [List.countP_append] at few
    have landed := before.receivedBy_eq target
    have one := attacksOn_attack buildingPhase buildingOf target
    have none := attacksOn_outside (m := applied) (by simp [appliedPhase]) target
    -- the attack on the target is one of the few
    have bound : attacker.opposite = target → attacksOn target ms + 1 < UInt32.size := by
      intro own
      have begun : 1 ≤ List.countP (·.beginsAttack) [building, applied] := by
        simp [Moment.beginsAttack, buildingPhase]
      have others := attacksOn_le target ms
      omega
    have built := buildingOf.hitsReckoned? landed bound
    have struck := appliedOf.hitsReckoned? landed bound
    rw [show ms ++ [building, applied] = ms ++ [building] ++ [applied] by simp]
    refine ((ih (by omega)).concat ?_).concat ?_
    · rw [attacksOn_append, one]
      exact built
    · rw [attacksOn_append, attacksOn_append, one, none]
      exact struck
  | @finish hits ms before m phase between ih =>
    rw [List.countP_append] at few
    refine (ih (by omega)).concat ?_
    rw [between.hitsReckoned?, before.receivedBy_eq, attacksOn_append,
      attacksOn_outside (by simp [phase]), Nat.add_zero]

end Timeline

/-! ## The timeline of a diary -/

theorem Exchange.timeline {f : Fight σ} {blows : List (Blow σ)} (h : Exchange arena f blows)
    {ms : List Moment} (hf : Timeline false f.counters.attacks ms) :
    Timeline false (f.after arena blows).counters.attacks
      (ms ++ blows.flatMap (·.moments arena)) := by
  induction h generalizing ms with
  | still f => simpa using hf
  | @blow f side rest undecided ready later ih =>
    rw [List.flatMap_cons, ← List.append_assoc]
    exact ih (hf.attack rfl ⟨rfl, rfl, rfl⟩ rfl ⟨rfl, rfl, rfl⟩)

theorem Fight.stage_timeline {f : Fight σ} {ms : List Moment}
    (h : Timeline false f.counters.attacks ms) :
    ∃ f', f.stage.fight? = some f' ∧
      Timeline f.stage.outcome?.isSome f'.counters.attacks (ms ++ f.closingMoments) := by
  by_cases decided : f.combatants.isDecided = true
  · rw [stage, closingMoments, if_pos decided, if_pos decided]
    exact ⟨f.closed, rfl, h.finish rfl ⟨rfl, rfl⟩⟩
  · rw [stage, closingMoments, if_neg decided, if_neg decided, List.append_nil]
    exact ⟨f, rfl, h⟩

theorem Battle.tick_timeline {b : Battle σ} {f : Fight σ} (hb : b.stage = .fighting f)
    {ms : List Moment} (hf : Timeline false f.counters.attacks ms) (dt : Float32) :
    ∃ f', (b.tick dt).2.stage.fight? = some f' ∧
      Timeline (b.tick dt).2.stage.outcome?.isSome f'.counters.attacks
        (ms ++ f.tickMoments b.arena dt) := by
  rw [tick_fighting hb, Fight.tickMoments, ← List.append_assoc]
  rw [← f.tickStart_counters dt] at hf
  exact Fight.stage_timeline ((f.tickBlows_exchange b.arena dt).timeline hf)

namespace Diary

/-- Before the first start the diary is empty. From then on it is a timeline with the hits of the last
fight. -/
def Timed (d : Diary σ) : Prop :=
  match d.battle.stage.fight? with
  | none => d.moments = []
  | some f => Timeline d.battle.stage.outcome?.isSome f.counters.attacks d.moments

theorem Timed.call {d : Diary σ} (h : d.Timed) (x : Call σ) : (d.call x).Timed := by
  rw [Timed, Diary.call]
  cases d.battle.walk x with
  | opened setup enemy accepted moments stage =>
    rw [accepted, moments, stage]
    exact .start rfl ⟨rfl, rfl⟩
  | ticked dt f fighting refused same moments =>
    rw [Timed, fighting] at h
    obtain ⟨f', stage, timeline⟩ := Battle.tick_timeline fighting h dt
    rw [refused, same, moments, stage]
    exact timeline
  | rested refused moments fight outcome =>
    rw [refused, moments, fight, outcome]
    rw [Timed] at h
    simpa using h

theorem calls_timed (ruleset : Ruleset) (memory : σ) (calls : List (Call σ)) :
    ((Diary.new ruleset memory).calls calls).Timed := by
  refine calls_induction (fun _ x h => h.call x) ?_ calls
  rfl

theorem Timed.phase_ne_description {d : Diary σ} (h : d.Timed) :
    ∀ m ∈ d.moments, m.phase ≠ .description := by
  rw [Timed] at h
  split at h
  · simp [h]
  · exact h.phase_ne_description

theorem Timed.reckons {d : Diary σ} (h : d.Timed)
    (few : d.moments.countP (·.beginsAttack) < UInt32.size) (target : Side) :
    Reckons target d.moments := by
  rw [Timed] at h
  split at h
  · simp [h, Reckons]
  · exact h.reckons few target

/-- Whatever calls have been made, the moments at which the battle has walked its forests since the last
start tell of a start, of attacks and of the end if it has come. If there were fewer than 2^32 attacks,
the hits reckoned with at a moment are the attacks on the side that have begun so far, in the k-th
attack on the side k. So their number never falls, and once a gate on hits has opened, each gate on
as many hits of the same side is open, or shut if it is inverted. -/
theorem hits_never_fall (ruleset : Ruleset) (memory : σ) (calls : List (Call σ)) (target : Side)
    (few : ((Diary.new ruleset memory).calls calls).moments.countP (·.beginsAttack) < UInt32.size) :
    let d := (Diary.new ruleset memory).calls calls
    d.Complete ∧ d.Timed ∧
    (∀ i m, d.moments[i]? = some m → ∃ reckoned, m.hitsReckoned? target = some reckoned ∧
      reckoned.toNat = attacksOn target (d.moments.take (i + 1))) ∧
    ∀ (i j : Nat) m m', i ≤ j → d.moments[i]? = some m → d.moments[j]? = some m' →
      (∃ sooner later, m.hitsReckoned? target = some sooner ∧
        m'.hitsReckoned? target = some later ∧ sooner ≤ later) ∧
      ∀ hits, hits ≠ 0 → ∀ counter rng,
        (Gate.judge ⟨.afterHits target hits, false⟩ counter m rng).skips = false →
        ∀ invert counter' rng',
          (Gate.judge ⟨.afterHits target hits, invert⟩ counter' m' rng').skips = invert := by
  intro d
  have timed : d.Timed := calls_timed ruleset memory calls
  have reckons : Reckons target d.moments := timed.reckons few target
  refine ⟨calls_complete ruleset memory calls, timed, fun i m => reckons.exists_reckoned few, ?_⟩
  intro i j m m' order hm hm'
  obtain ⟨sooner, known, soonerValue⟩ := reckons.exists_reckoned few hm
  obtain ⟨later, known', laterValue⟩ := reckons.exists_reckoned few hm'
  have rises : sooner ≤ later := by
    rw [UInt32.le_iff_toNat_le, soonerValue, laterValue]
    exact attacksOn_take_le target d.moments (by omega)
  refine ⟨⟨sooner, later, known, known', rises⟩, ?_⟩
  intro hits positive counter rng opened invert counter' rng'
  have awake := timed.phase_ne_description m (List.mem_of_getElem? hm)
  have awake' := timed.phase_ne_description m' (List.mem_of_getElem? hm')
  rw [Gate.judge_afterHits awake positive known] at opened
  rw [Gate.judge_afterHits awake' positive known']
  have enough : hits ≤ sooner := by simpa using opened
  have still : hits ≤ later := UInt32.le_trans enough rises
  simp [still]

end Diary

/-- The first two hits of a duel in which a salve brings the player back. -/
def longDuel : Diary Unit :=
  (Diary.new { critEnabled := false } ()).calls [.start (duel [salve]), .tick 1, .tick 1]

/-- A gate on two hits is shut at the start of the duel and in its first attack, and open from the
second attack on. -/
theorem long_duel_hits :
    longDuel.moments.countP (·.beginsAttack) < UInt32.size ∧
      longDuel.moments.map (·.hitsReckoned? .player) = [some 0, some 1, some 1, some 2, some 2] ∧
      ∀ i m, longDuel.moments[i]? = some m → ∃ reckoned,
        m.hitsReckoned? .player = some reckoned ∧
        reckoned.toNat = attacksOn .player (longDuel.moments.take (i + 1)) := by
  have few : longDuel.moments.countP (·.beginsAttack) < UInt32.size := by decide +kernel
  have reckoned : longDuel.moments.map (·.hitsReckoned? .player) =
      [some 0, some 1, some 1, some 2, some 2] := by decide +kernel
  exact ⟨few, reckoned, (Diary.hits_never_fall _ _ _ .player few).2.2.1⟩

end Masquerade
