import Masquerade.Combatant
import Masquerade.Proofs.Single.Canonical
import Masquerade.Proofs.Single.Order

/-!
# Entering a battle with the permanent stats

The permanent stats and the numbers of a combatant are moved into their domains separately. Stats that
have been moved into theirs stay as they are there (`Stats.clamped_clamped`), and so they do as numbers of
a combatant (`Combatant.ofProfile_ofRecord`): a player enters a battle with exactly the stats of now.
Whatever finite growth has been added to a record, as collected or multiplied by finite factors, its stats
of now have been moved into their domains, and all of them are numbers (`PlayerRecord.enters_unchanged`).
-/

namespace Masquerade

open Float32 (atLeast_atLeast isFinite_of_mem_unit isNaN_add isNaN_mul isNaN_of_isFinite isNaN_of_le
  isNaN_one isNaN_zero le_atLeast within_mem within_within zero_le_one)

namespace Stats

/-! ## Stats in their domains -/

/-- Every stat lies in its domain. -/
structure InDomain (s : Stats) : Prop where
  maxHp : 1 ≤ s.maxHp
  attack : 0 ≤ s.attack
  defense : 0 ≤ s.defense
  critChance : 0 ≤ s.critChance ∧ s.critChance ≤ 1
  critMultiplier : 1 ≤ s.critMultiplier
  speedRate : 0 ≤ s.speedRate
  luck : 0 ≤ s.luck ∧ s.luck ≤ 100
  penetrationFlat : 0 ≤ s.penetrationFlat
  penetrationPercent : 0 ≤ s.penetrationPercent ∧ s.penetrationPercent ≤ 1

/-- The two entries that are held in a range are numbers. -/
structure HasChances (s : Stats) : Prop where
  critChance : s.critChance.isNaN = false
  penetrationPercent : s.penetrationPercent.isNaN = false

theorem toInt_luck (n : Int32) : (min (max n 0) 100).toInt = min (max n.toInt 0) 100 := by
  rw [Int32.toInt_min, Int32.toInt_max]
  rfl

theorem clamped_inDomain {s : Stats} (chances : s.HasChances) : s.clamped.InDomain where
  maxHp := le_atLeast isNaN_one _
  attack := le_atLeast isNaN_zero _
  defense := le_atLeast isNaN_zero _
  critChance := within_mem zero_le_one chances.critChance
  critMultiplier := le_atLeast isNaN_one _
  speedRate := Int32.zero_le_max _
  luck := by
    show 0 ≤ min (max s.luck 0) 100 ∧ min (max s.luck 0) 100 ≤ 100
    rw [Int32.le_iff_toInt_le, Int32.le_iff_toInt_le, toInt_luck]
    exact ⟨le_min (le_max_right _ _) (by decide), min_le_right _ _⟩
  penetrationFlat := le_atLeast isNaN_zero _
  penetrationPercent := within_mem zero_le_one chances.penetrationPercent

theorem clamped_clamped (s : Stats) : s.clamped.clamped = s.clamped := by
  have speed : max (max s.speedRate 0) 0 = max s.speedRate 0 := by
    rw [← Int32.toInt_inj, Int32.toInt_max, Int32.toInt_max, max_assoc, max_self]
  have luck : min (max (min (max s.luck 0) 100) 0) 100 = min (max s.luck 0) 100 := by
    rw [← Int32.toInt_inj, toInt_luck, toInt_luck]
    omega
  simp only [clamped, atLeast_atLeast, within_within zero_le_one, speed, luck]

theorem InDomain.isNaN_get {s : Stats} (h : s.InDomain) (stat : Stat) : (s.get stat).isNaN = false := by
  have whole (n : Int32) : n.toSingle.isNaN = false :=
    (Float32.isNaN_unpack_pack _).trans (Float32.isNaN_roundWithAccuracy _ _ _ _)
  cases stat with
  | maxHp => exact (isNaN_of_le h.maxHp).2
  | attack => exact (isNaN_of_le h.attack).2
  | defense => exact (isNaN_of_le h.defense).2
  | critChance => exact (isNaN_of_le h.critChance.1).2
  | critMultiplier => exact (isNaN_of_le h.critMultiplier).2
  | speedRate => exact whole s.speedRate
  | luck => exact whole s.luck
  | penetrationFlat => exact (isNaN_of_le h.penetrationFlat).2
  | penetrationPercent => exact (isNaN_of_le h.penetrationPercent.1).2

/-! ## Growth -/

/-- Every entry that is not a whole number is finite. -/
def IsFinite (s : Stats) : Prop :=
  ∀ x ∈ [s.maxHp, s.attack, s.defense, s.critChance, s.critMultiplier, s.penetrationFlat,
    s.penetrationPercent], x.isFinite = true

theorem IsFinite.chances {s : Stats} (h : s.IsFinite) :
    s.critChance.isFinite = true ∧ s.penetrationPercent.isFinite = true :=
  ⟨h _ (by simp), h _ (by simp)⟩

theorem isFinite_zero : (0 : Float32).isFinite = true := by decide

/-- A finite entry times a finite factor may overflow, but it is a number. -/
theorem IsFinite.scaled {s : Stats} (h : s.IsFinite) {factor : Float32}
    (finite : factor.isFinite = true) : (s.scaled factor).HasChances where
  critChance := by
    show (0 + s.critChance * factor).isNaN = false
    exact isNaN_add isFinite_zero (isNaN_mul h.chances.1 finite)
  penetrationPercent := by
    show (0 + s.penetrationPercent * factor).isNaN = false
    exact isNaN_add isFinite_zero (isNaN_mul h.chances.2 finite)

theorem InDomain.grown {s growth : Stats} (h : s.InDomain) (chances : growth.HasChances) :
    (s.grown growth).InDomain :=
  clamped_inDomain {
    critChance :=
      isNaN_add (isFinite_of_mem_unit h.critChance.1 h.critChance.2) chances.critChance
    penetrationPercent :=
      isNaN_add (isFinite_of_mem_unit h.penetrationPercent.1 h.penetrationPercent.2)
        chances.penetrationPercent }

end Stats

/-! ## Records -/

/-- Whether growth is multiplied by a finite factor, if by any. -/
def Commit.IsFinite : Commit → Prop
  | direct => True
  | scaled factor => factor.isFinite = true

/-- Growth deltas added to a record one after the other, each in its own way. -/
def PlayerRecord.commitAll (r : PlayerRecord) (commits : List (Commit × Stats)) : PlayerRecord :=
  commits.foldl (fun r c => c.1.apply r c.2) r

/-- The stats of now have been moved into their domains, and are there. -/
structure PlayerRecord.Settled (r : PlayerRecord) : Prop where
  inDomain : r.actual.InDomain
  clamped : r.actual.clamped = r.actual

namespace PlayerRecord

theorem new_settled (name : String) {given : Stats} (chances : given.HasChances) :
    (new name given).Settled :=
  ⟨Stats.clamped_inDomain chances, Stats.clamped_clamped given⟩

variable {r : PlayerRecord}

theorem Settled.grown (h : r.Settled) {growth : Stats} (chances : growth.HasChances) :
    (r.grown growth).Settled :=
  ⟨h.inDomain.grown chances, Stats.clamped_clamped _⟩

theorem Settled.apply (h : r.Settled) {commit : Commit} (finite : commit.IsFinite) {growth : Stats}
    (entries : growth.IsFinite) : (commit.apply r growth).Settled := by
  cases commit with
  | direct =>
    exact h.grown ⟨isNaN_of_isFinite entries.chances.1, isNaN_of_isFinite entries.chances.2⟩
  | scaled factor => exact h.grown (entries.scaled finite)

theorem Settled.commitAll (h : r.Settled) {commits : List (Commit × Stats)}
    (finite : ∀ c ∈ commits, c.1.IsFinite ∧ c.2.IsFinite) : (r.commitAll commits).Settled := by
  induction commits generalizing r with
  | nil => exact h
  | cons c rest ih =>
    obtain ⟨factor, entries⟩ := finite c List.mem_cons_self
    exact ih (h.apply factor entries) fun c' hc' => finite c' (List.mem_cons_of_mem c hc')

end PlayerRecord

/-! ## The combatant -/

namespace Combatant

/-- A combatant at full HP whose numbers are the given stats. -/
def ofStats (name : String) (s : Stats) : Combatant where
  name := name
  maxHp := s.maxHp
  currentHp := s.maxHp
  attack := s.attack
  defense := s.defense
  critChance := s.critChance
  critMultiplier := s.critMultiplier
  speedRate := s.speedRate
  penetrationFlat := s.penetrationFlat
  penetrationPercent := s.penetrationPercent

/-- Both ways of moving numbers into their domains agree on the stats of now. -/
theorem ofProfile_ofRecord (r : PlayerRecord) :
    ofProfile (.ofRecord r) = ofStats r.name r.actual.clamped :=
  rfl

theorem get?_ofStats (name : String) (s : Stats) {stat : Stat} (fought : stat ≠ .luck) :
    (ofStats name s).get? stat = some (s.get stat) := by
  cases stat with
  | luck => exact absurd rfl fought
  | _ => rfl

end Combatant

/-- A player enters a battle with exactly the permanent stats. Whatever finite growth has been added to a
record that began with any stats whose chances are numbers, as collected or multiplied by finite factors,
every stat of now lies in its domain and is a number, and the combatant that is made from the record has
the stats of now for its numbers, at full HP. -/
theorem PlayerRecord.enters_unchanged (name : String) {given : Stats} (chances : given.HasChances)
    {commits : List (Commit × Stats)} (finite : ∀ c ∈ commits, c.1.IsFinite ∧ c.2.IsFinite) :
    let r := (PlayerRecord.new name given).commitAll commits
    let c := Combatant.ofProfile (.ofRecord r)
    r.actual.InDomain ∧ (∀ stat, (r.actual.get stat).isNaN = false) ∧
      c = .ofStats r.name r.actual ∧
      (∀ stat, stat ≠ .luck → c.get? stat = some (r.actual.get stat)) ∧
      c.currentHp = c.maxHp := by
  intro r c
  have settled : r.Settled := (PlayerRecord.new_settled name chances).commitAll finite
  have same : c = .ofStats r.name r.actual := by
    show Combatant.ofProfile (.ofRecord r) = _
    rw [Combatant.ofProfile_ofRecord, settled.clamped]
  refine ⟨settled.inDomain, settled.inDomain.isNaN_get, same, fun stat fought => ?_, rfl⟩
  rw [same]
  exact Combatant.get?_ofStats _ _ fought

/-- Growth by the greatest number of all, and then by twice as much, makes the greatest HP endless. The
player enters a battle with it. -/
theorem endless_growth_entered :
    let huge : Float32 := .ofScaled false 0xffffff 104
    let growth := { Stats.zero with maxHp := huge, critChance := huge }
    let r := (PlayerRecord.new "Kit" { Stats.starting with attack := .notANumber }).commitAll
      [(.direct, growth), (.scaled 2, growth), (.scaled (-0.5), { Stats.zero with luck := 35 })]
    let c := Combatant.ofProfile (.ofRecord r)
    r.actual.maxHp = .infinity false ∧ r.actual.attack = 0 ∧ r.actual.critChance = 1 ∧
      r.actual.luck = 2 ∧ r.actual.InDomain ∧ c.get? .maxHp = some (.infinity false) ∧
      c.currentHp = c.maxHp := by
  intro huge growth r c
  have chances : Stats.HasChances { Stats.starting with attack := .notANumber } :=
    ⟨by decide +kernel, by decide +kernel⟩
  have finite : ∀ one ∈ [(Commit.direct, growth), (.scaled 2, growth),
      (.scaled (-0.5), { Stats.zero with luck := 35 })], one.1.IsFinite ∧ one.2.IsFinite := by
    simp [Commit.IsFinite, Stats.IsFinite, growth, huge]
    decide +kernel
  obtain ⟨inDomain, -, -, readBack, full⟩ := PlayerRecord.enters_unchanged "Kit" chances finite
  have endless : r.actual.maxHp = .infinity false := by decide +kernel
  exact ⟨endless, by decide +kernel, by decide +kernel, by decide +kernel, inDomain,
    (readBack .maxHp (by decide)).trans (congrArg some endless), full⟩

end Masquerade
