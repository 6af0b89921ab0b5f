import Masquerade.Logic.Effect

/-!
# What an effect adds to

What an effect does comes down to additions to single numbers, made one after the other. An addition can
fail: what it adds to is not at hand, or luck is to be changed in battle. An effect that answers with
nothing has made no addition, and one that answers with targets has made one (`Effect.perform?_reports`).
Only an effect on several stats answers with targets also if it finds its side or the growth delta at hand
and then has nothing to add to it.
-/

namespace Masquerade

/-- An addition to one number. -/
inductive Addition where
  | attackField (field : AttackField) (amount : Float32)
  | battleStat (side : Side) (stat : Stat) (amount : Float32) (heal : Bool)
  | growthStat (stat : Stat) (amount : Float32)
  | mana (amount : UInt32)
  | currentHp (side : Side) (adjust : HpAdjust)

namespace Addition

/-- The targets with the addition made, if what it adds to is at hand and has the stat. -/
def make? : Addition → Targets → Option Targets
  | attackField field amount, t => t.attack.map fun a => { t with attack := some (a.add field amount) }
  | battleStat side stat amount heal, t =>
    t.combatants.bind fun cs =>
      ((cs.get side).add? stat amount heal).map fun c => { t with combatants := some (cs.set side c) }
  | growthStat stat amount, t => t.growth.map fun g => { t with growth := some (g.add stat amount) }
  | mana amount, t => t.mana.map fun pool => { t with mana := some (pool.restore amount) }
  | currentHp side adjust, t =>
    t.combatants.map fun cs =>
      { t with
        combatants := some <| cs.modify side fun c =>
          match adjust with
          | .flat amount => c.addCurrentHp amount
          | .fractionOfMax fraction => c.addCurrentHp (c.maxHp * fraction) }

/-- Makes additions one after the other: those that could be made, and the targets after them. -/
def makeAll : List Addition → Targets → List Addition × Targets
  | [], t => ([], t)
  | a :: rest, t =>
    match a.make? t with
    | none => makeAll rest t
    | some u => (a :: (makeAll rest u).1, (makeAll rest u).2)

variable {a : Addition} {t u : Targets}

theorem makeAll_none (h : a.make? t = none) (rest : List Addition) :
    makeAll (a :: rest) t = makeAll rest t := by
  rw [makeAll, h]

theorem makeAll_some (h : a.make? t = some u) (rest : List Addition) :
    makeAll (a :: rest) t = (a :: (makeAll rest u).1, (makeAll rest u).2) := by
  rw [makeAll, h]

/-- Without anything to add to no addition is made. -/
theorem makeAll_of_none {as : List Addition} (h : ∀ a ∈ as, a.make? t = none) :
    makeAll as t = ([], t) := by
  induction as with
  | nil => rfl
  | cons a rest ih =>
    rw [makeAll_none (h a List.mem_cons_self)]
    exact ih fun b hb => h b (List.mem_cons_of_mem a hb)

/-- Additions to the growth delta can all be made. -/
theorem makeAll_growthStat {g : Stats} (here : t.growth = some g) (deltas : List (Stat × Float32)) :
    makeAll (deltas.map fun d => growthStat d.1 d.2) t =
      (deltas.map fun d => growthStat d.1 d.2, { t with growth := some (g.addAll deltas) }) := by
  induction deltas generalizing t g with
  | nil => simp [makeAll, Stats.addAll, ← here]
  | cons d rest ih =>
    have first : (growthStat d.1 d.2).make? t = some { t with growth := some (g.add d.1 d.2) } := by
      rw [make?, here]
      rfl
    rw [List.map_cons, makeAll_some first, ih rfl]
    rfl

/-- Additions to the stats of a side can be made but for those to luck. -/
theorem makeAll_battleStat {cs : PerSide Combatant} (here : t.combatants = some cs) (side : Side)
    (deltas : List (Stat × Float32)) (heal : Bool) :
    makeAll (deltas.map fun d => battleStat side d.1 d.2 heal) t =
      ((deltas.filter (·.1 ≠ .luck)).map fun d => battleStat side d.1 d.2 heal,
        { t with combatants := some (cs.modify side (·.addAll deltas heal)) }) := by
  induction deltas generalizing t cs with
  | nil => cases side <;> simp [makeAll, Combatant.addAll, PerSide.modify, ← here]
  | cons d rest ih =>
    obtain ⟨key, amount⟩ := d
    rw [List.map_cons]
    -- luck has no value in battle, and every other stat takes the amount
    by_cases lucky : key = .luck
    · subst lucky
      have first : (battleStat side .luck amount heal).make? t = none := by
        rw [make?, here]
        rfl
      rw [makeAll_none first, ih here, List.filter_cons_of_neg (by simp)]
      rfl
    · obtain ⟨c, added⟩ : ∃ c, (cs.get side).add? key amount heal = some c := by
        cases key <;> first | exact ⟨_, rfl⟩ | exact absurd rfl lucky
      have first : (battleStat side key amount heal).make? t =
          some { t with combatants := some (cs.set side c) } := by
        rw [make?, here, Option.bind_some, added]
        rfl
      rw [makeAll_some first, ih rfl, List.filter_cons_of_pos (by simpa using lucky)]
      cases side <;>
        simp_all [PerSide.set, PerSide.modify, PerSide.get, Combatant.addAll]

/-- Where no addition is made, nothing changes. -/
theorem snd_makeAll_of_fst {as : List Addition} (h : (makeAll as t).1 = []) : (makeAll as t).2 = t := by
  induction as with
  | nil => rfl
  | cons a rest ih =>
    cases first : a.make? t with
    | none =>
      rw [makeAll_none first] at h ⊢
      exact ih h
    | some u =>
      rw [makeAll_some first] at h
      cases h

end Addition

namespace Effect

open Addition (makeAll)

/-- The additions that an effect comes down to, without regard to the phase. -/
def asks (e : Effect) (m : Moment) (t : Targets) : List Addition :=
  match e with
  | attackField field amount => [.attackField field amount]
  | maskCountScale field perMask => [.attackField field (perMask * m.maskCount.toSingle)]
  | addStats target deltas heal persistent =>
    deltas.map fun d => if persistent then .growthStat d.1 d.2 else .battleStat target d.1 d.2 heal
  | percentAttach source sourceStat target targetStat percent heal persistent =>
    (t.read? source sourceStat).toList.map fun value =>
      if persistent then
        .growthStat targetStat (value * percent)
      else
        .battleStat target targetStat (value * percent) heal
  | restoreMana amount => if m.phase = .bind then [.mana amount] else []
  | adjustHp target adjust => (target.side? m).toList.map (.currentHp · adjust)

/-- The additions of an effect at one moment: none if the effect does not work in this phase. -/
def additions (e : Effect) (m : Moment) (t : Targets) : List Addition :=
  if m.phase = .description then
    []
  else if e.isAttackEffect = decide (m.phase = .attackModify) then
    e.asks m t
  else
    []

/-- Whether an effect on several stats has nothing to add to what it finds: in battle it changes no stat
but luck, and of the growth delta none at all. -/
def isIdle : Effect → Bool
  | addStats _ deltas _ true => deltas.isEmpty
  | addStats _ deltas _ false => deltas.all (·.1 = .luck)
  | _ => false

/-- An answer, nothing or the changed targets, fits the additions to be made: without an answer none is
made, and otherwise all that can be, which is none only for something idle. -/
structure Reports (additions : List Addition) (t : Targets) (idle : Bool) (answer : Option Targets) :
    Prop where
  refused : answer = none → makeAll additions t = ([], t)
  done : ∀ u, answer = some u →
    (makeAll additions t).2 = u ∧ ((makeAll additions t).1 = [] ↔ idle = true)

theorem Reports.nothing (t : Targets) (idle : Bool) : Reports [] t idle none :=
  ⟨fun _ => rfl, fun _ answer => by cases answer⟩

/-- Something busy that comes down to one addition answers as this addition does. -/
theorem Reports.single (a : Addition) (t : Targets) : Reports [a] t false (a.make? t) where
  refused failed := by
    rw [Addition.makeAll_none failed]
    rfl
  done u done := by
    rw [Addition.makeAll_some done]
    exact ⟨rfl, by simp⟩

theorem reports_addStats (target : Side) (deltas : List (Stat × Float32)) (heal persistent : Bool)
    (m : Moment) (t : Targets) :
    let e := addStats target deltas heal persistent
    Reports (e.asks m t) t e.isIdle (e.write? m t) := by
  intro e
  cases persistent with
  | true =>
    have asks : e.asks m t = deltas.map fun d => .growthStat d.1 d.2 := rfl
    cases here : t.growth with
    | none =>
      refine ⟨fun _ => Addition.makeAll_of_none fun a ha => ?_, by simp [e, write?, here]⟩
      obtain ⟨d, -, rfl⟩ := List.mem_map.1 (asks ▸ ha)
      simp [Addition.make?, here]
    | some g =>
      have made := Addition.makeAll_growthStat here deltas
      constructor <;> simp [asks, made, e, write?, here, isIdle]
  | false =>
    have asks : e.asks m t = deltas.map fun d => .battleStat target d.1 d.2 heal := rfl
    cases here : t.combatants with
    | none =>
      refine ⟨fun _ => Addition.makeAll_of_none fun a ha => ?_, by simp [e, write?, here]⟩
      obtain ⟨d, -, rfl⟩ := List.mem_map.1 (asks ▸ ha)
      simp [Addition.make?, here]
    | some cs =>
      have made := Addition.makeAll_battleStat here target deltas heal
      constructor <;> simp [asks, made, e, write?, here, isIdle]

/-- What an effect answers without regard to the phase fits its additions. -/
theorem write?_reports (e : Effect) (m : Moment) (t : Targets) :
    Reports (e.asks m t) t e.isIdle (e.write? m t) := by
  cases e with
  | attackField field amount => exact .single (.attackField field amount) t
  | maskCountScale field perMask =>
    exact .single (.attackField field (perMask * m.maskCount.toSingle)) t
  | addStats target deltas heal persistent => exact reports_addStats target deltas heal persistent m t
  | percentAttach source sourceStat target targetStat percent heal persistent =>
    rw [asks, write?]
    cases t.read? source sourceStat with
    | none => exact .nothing t false
    | some value =>
      -- the share is added to one entry of the growth delta, or to one stat of a combatant
      cases persistent with
      | true => exact .single (.growthStat targetStat (value * percent)) t
      | false => exact .single (.battleStat target targetStat (value * percent) heal) t
  | restoreMana amount =>
    rw [asks, write?]
    by_cases binding : m.phase = .bind
    · rw [if_pos binding, if_pos binding]
      exact .single (.mana amount) t
    · rw [if_neg binding, if_neg binding]
      exact .nothing t false
  | adjustHp target adjust =>
    rw [asks, write?]
    cases target.side? m with
    | none => exact .nothing t false
    | some participant => cases adjust <;> exact .single (.currentHp participant _) t

/-- An effect that answers with nothing has made no addition and changed nothing. An effect that answers
with targets has made its additions to them. It has made one at least, unless it is an effect on several
stats that finds its side, or the growth delta, and has nothing to add to it; then it has made none, and has
changed nothing either. -/
theorem perform?_reports (e : Effect) (m : Moment) (t : Targets) :
    let made := makeAll (e.additions m t) t
    (e.perform? m t = none → made = ([], t)) ∧
      ∀ u, e.perform? m t = some u →
        made.2 = u ∧ (made.1 = [] ↔ e.isIdle = true) ∧ (e.isIdle = true → u = t) := by
  intro made
  by_cases works : m.phase ≠ .description ∧ e.isAttackEffect = decide (m.phase = .attackModify)
  · have answers : e.perform? m t = e.write? m t := by rw [perform?, if_neg works.1, if_pos works.2]
    have additions : e.additions m t = e.asks m t := by rw [additions, if_neg works.1, if_pos works.2]
    obtain ⟨refused, done⟩ := e.write?_reports m t
    simp only [made, answers, additions]
    refine ⟨refused, fun u answer => ?_⟩
    obtain ⟨after, idle⟩ := done u answer
    exact ⟨after, idle, fun h => after.symm.trans (Addition.snd_makeAll_of_fst (idle.2 h))⟩
  · have rests : e.perform? m t = none ∧ e.additions m t = [] := by
      rw [perform?, additions]
      split
      · exact ⟨rfl, rfl⟩
      · next awake =>
        have wrong : ¬ e.isAttackEffect = decide (m.phase = .attackModify) := fun right =>
          works ⟨awake, right⟩
        exact ⟨if_neg wrong, if_neg wrong⟩
    simp [made, rests.1, rests.2, makeAll]

/-- An effect on luck in battle answers with targets and has made no addition. The share of a stat that is
to be added to luck finds nothing to add to, and there the answer says so. -/
theorem luck_reported :
    let m : Moment := { phase := .battleStart }
    let t : Targets := { combatants := some (.both (.ofProfile {})) }
    let blessing := addStats .player [(.luck, 5)] false false
    let share := percentAttach .player .attack .player .luck 1 false false
    blessing.perform? m t = some t ∧ makeAll (blessing.additions m t) t = ([], t) ∧
      share.perform? m t = none := by
  refine ⟨by decide +kernel, rfl, by decide +kernel⟩

end Effect

end Masquerade
