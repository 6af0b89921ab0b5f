import Masquerade.Proofs.Single.Whole
import Masquerade.Stats

/-!
# Growth scaled by one

To scale a growth delta by one is to multiply every entry by one and to add it to zero. The entries that
are quantities come out alike (`Stats.alike_scaled_one`). The whole numbers go through quantities, and one
with too many digits comes out as another: `scaled_one_commits` says which growth is kept, and that it then
leaves the same record whether it is scaled by one or lands as collected.
-/

namespace Masquerade

namespace Stats

/-- The same growth or the same stats: whole numbers are equal, and quantities are alike. -/
structure Alike (s t : Stats) : Prop where
  maxHp : s.maxHp.Alike t.maxHp
  attack : s.attack.Alike t.attack
  defense : s.defense.Alike t.defense
  critChance : s.critChance.Alike t.critChance
  critMultiplier : s.critMultiplier.Alike t.critMultiplier
  speedRate : s.speedRate = t.speedRate
  luck : s.luck = t.luck
  penetrationFlat : s.penetrationFlat.Alike t.penetrationFlat
  penetrationPercent : s.penetrationPercent.Alike t.penetrationPercent

/-- The entries with the whole numbers made quantities and whole numbers again. -/
def throughSingle (s : Stats) : Stats :=
  { s with
    speedRate := s.speedRate.toSingle.roundToInt32
    luck := s.luck.toSingle.roundToInt32 }

/-- Every entry is scaled on its own and added to zero. -/
theorem scaled_eq (s : Stats) (factor : Float32) :
    s.scaled factor =
      { maxHp := 0 + s.maxHp * factor
        attack := 0 + s.attack * factor
        defense := 0 + s.defense * factor
        critChance := 0 + s.critChance * factor
        critMultiplier := 0 + s.critMultiplier * factor
        speedRate := Int32.addSaturating 0 (s.speedRate.toSingle * factor).roundToInt32
        luck := Int32.addSaturating 0 (s.luck.toSingle * factor).roundToInt32
        penetrationFlat := 0 + s.penetrationFlat * factor
        penetrationPercent := 0 + s.penetrationPercent * factor } :=
  rfl

/-- Scaling by one lets every entry pass through a quantity. -/
theorem alike_scaled_one (s : Stats) : (s.scaled 1).Alike s.throughSingle := by
  have quantity (x : Float32) : (0 + x * 1).Alike x :=
    (Float32.alike_zero_add (s := .positive) rfl _).trans (Float32.alike_mul_one x)
  have whole (a : Int32) :
      Int32.addSaturating 0 (a.toSingle * 1).roundToInt32 = a.toSingle.roundToInt32 := by
    rw [Int32.addSaturating, (Float32.alike_mul_one a.toSingle).roundToInt32_eq]
    exact (congrArg Int32.ofIntClamp (Int.zero_add _)).trans (Int32.ofIntClamp_toInt _)
  rw [scaled_eq]
  exact ⟨quantity _, quantity _, quantity _, quantity _, quantity _, whole _, whole _, quantity _,
    quantity _⟩

/-- Growth that is alike makes stats that are alike. -/
theorem Alike.grown {growth growth' : Stats} (h : growth.Alike growth') (s : Stats) :
    (s.grown growth).Alike (s.grown growth') where
  maxHp := (h.maxHp.add_left _).atLeast 1
  attack := (h.attack.add_left _).atLeast 0
  defense := (h.defense.add_left _).atLeast 0
  critChance := (h.critChance.add_left _).within 0 1
  critMultiplier := (h.critMultiplier.add_left _).atLeast 1
  speedRate := congrArg (fun a => max (s.speedRate.addSaturating a) 0) h.speedRate
  luck := congrArg (fun a => min (max (s.luck.addSaturating a) 0) 100) h.luck
  penetrationFlat := (h.penetrationFlat.add_left _).atLeast 0
  penetrationPercent := (h.penetrationPercent.add_left _).within 0 1

theorem throughSingle_eq {s : Stats} (speedRate : s.speedRate.toSingle.roundToInt32 = s.speedRate)
    (luck : s.luck.toSingle.roundToInt32 = s.luck) : s.throughSingle = s := by
  rw [throughSingle, speedRate, luck]

end Stats

/-- The same record: its name, its stats of the beginning, and stats of now that are alike. -/
structure PlayerRecord.Alike (r t : PlayerRecord) : Prop where
  name : r.name = t.name
  base : r.base = t.base
  actual : r.actual.Alike t.actual

/-- Growth scaled by one is alike growth as collected, as far as both its whole numbers are the largest of
all or have at most 24 binary digits with zeros after them, and no further. Where it is alike, it leaves the
same record as growth that lands as collected. A whole number with more digits is rounded to one with 24. -/
theorem scaled_one_commits (growth : Stats) :
    let kept (a : Int32) := a = Int32.maxValue ∨ Float32.FitsSingle a.toInt
    ((growth.scaled 1).Alike growth ↔ kept growth.speedRate ∧ kept growth.luck) ∧
    (kept growth.speedRate → kept growth.luck → ∀ record : PlayerRecord,
      ((Commit.scaled 1).apply record growth).Alike (Commit.direct.apply record growth)) ∧
    (growth.scaled 1).Alike growth.throughSingle := by
  intro kept
  have through := growth.alike_scaled_one
  have speedRate := growth.speedRate.roundToInt32_toSingle_eq_iff
  have luck := growth.luck.roundToInt32_toSingle_eq_iff
  have alike : (growth.scaled 1).Alike growth ↔ kept growth.speedRate ∧ kept growth.luck := by
    constructor
    · intro h
      exact ⟨speedRate.1 (through.speedRate.symm.trans h.speedRate),
        luck.1 (through.luck.symm.trans h.luck)⟩
    · rintro ⟨hspeed, hluck⟩
      rwa [Stats.throughSingle_eq (speedRate.2 hspeed) (luck.2 hluck)] at through
  exact ⟨alike, fun hspeed hluck record =>
    ⟨rfl, rfl, (alike.2 ⟨hspeed, hluck⟩).grown record.actual⟩, through⟩

/-- The least whole number with too many digits: scaled by one it loses a unit, and so does the speed of the
record. -/
theorem scaled_one_loses_unit :
    let growth : Stats := { Stats.zero with speedRate := 16777217 }
    let record := PlayerRecord.new "Mira" .starting
    (∀ stat, (growth.get stat).isNaN = false) ∧
      (growth.scaled 1).speedRate = 16777216 ∧ ¬ (growth.scaled 1).Alike growth ∧
      (Commit.direct.apply record growth).actual.speedRate = 16777223 ∧
      ((Commit.scaled 1).apply record growth).actual.speedRate = 16777222 := by
  intro growth record
  have scaled : (growth.scaled 1).speedRate = 16777216 := by decide +kernel
  refine ⟨fun stat => ?_, scaled, fun same => ?_, by decide +kernel, by decide +kernel⟩
  · cases stat <;> decide +kernel
  · exact absurd (scaled.symm.trans same.speedRate) (by decide)

/-- An infinite entry, a negative zero and whole numbers at the ends of what is kept. -/
theorem scaled_one_commits_ends :
    let growth : Stats := { Stats.zero with
      maxHp := Float32.infinity false, attack := -0.0, critChance := -0.0
      speedRate := -16777218, luck := Int32.maxValue }
    let record := PlayerRecord.new "Mira" .starting
    Float32.FitsSingle growth.speedRate.toInt ∧ growth.luck = Int32.maxValue ∧
      (growth.scaled 1).Alike growth ∧ growth.scaled 1 ≠ growth ∧
      ((Commit.scaled 1).apply record growth).Alike (Commit.direct.apply record growth) := by
  intro growth record
  have fits : Float32.FitsSingle growth.speedRate.toInt := ⟨8388609, 1, by decide, by decide⟩
  obtain ⟨alike, commits, -⟩ := scaled_one_commits growth
  exact ⟨fits, rfl, alike.2 ⟨.inr fits, .inl rfl⟩, by decide +kernel,
    commits (.inr fits) (.inl rfl) record⟩

end Masquerade
