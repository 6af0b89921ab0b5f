import Masquerade.Pipeline
import Masquerade.Proofs.Single.Monotone

/-!
# Damage and its numbers

The built-in damage rule is a chain of roundings, bounds and one roll. An attack that presses at least as hard
as another in every number, on a defender with no more defense, does at least as much damage
(`FinalDamage.dealt_mono`). The one exception is infinite defense that is ignored altogether: what is left of
it is no number and counts as zero, even where the flat penetration is negative and would add to every finite
defense.
-/

namespace Masquerade

open RandomWords (Stream)

open Float32 (atLeast_atLeast atLeast_mono atLeast_mul_mono atLeast_of_isNaN atLeast_of_le atLeast_sub_mono
  isFinite_of_le isFinite_of_mem_unit isNaN_mul_cases isNaN_of_isFinite isNaN_of_le isNaN_one isNaN_sub
  isNaN_sub_finite isNaN_zero le_atLeast le_atLeast_mul le_atLeast_self le_iff_not_lt le_of_lt le_refl
  le_trans mul_le_zero mul_mono not_le_of_lt sub_le_of_nonneg sub_le_zero sub_mono sub_nonneg sub_pos
  unpack_mul_cases within_mono zero_le_one)

/-- The numbers of an attack and of its defender are in order: none of them is NaN, the ignored part of the
defense is a fraction of it, and the defense is not negative. -/
structure Attack.Sound (a : Attack) (d : Combatant) : Prop where
  raw : a.rawAttack.isNaN = false
  flat : a.penetrationFlat.isNaN = false
  percent : 0 ≤ a.penetrationPercent ∧ a.penetrationPercent ≤ 1
  chance : a.critChance.isNaN = false
  multiplier : a.critMultiplier.isNaN = false
  defense : 0 ≤ d.defense

/-- The second attack presses on its defender at least as hard as the first on its own. Where the first meets
infinite defense and ignores all of it, so that the defense is lost, the second has a defender of no less or a
flat penetration that takes off. -/
structure Attack.Presses (a : Attack) (d : Combatant) (a' : Attack) (d' : Combatant) : Prop where
  raw : a.rawAttack ≤ a'.rawAttack
  flat : a.penetrationFlat ≤ a'.penetrationFlat
  percent : a.penetrationPercent ≤ a'.penetrationPercent
  chance : a.critChance ≤ a'.critChance
  multiplier : a.critMultiplier ≤ a'.critMultiplier
  defense : d'.defense ≤ d.defense
  bounded : d.defense.isFinite = true ∨ a.penetrationPercent < 1 ∨ 0 ≤ a'.penetrationFlat ∨
    d'.defense.isFinite = false

namespace FinalDamage

variable {a a' : Attack} {d d' : Combatant}

/-- Whether a critical hit is rolled. -/
def lands (rule : FinalDamage) (a : Attack) (rng : Stream) : Bool :=
  rule.critEnabled && decide (rng.roll.1 < a.critChance.within 0 1)

/-- The damage of an attack that the rule settles against a defender. -/
def dealt (rule : FinalDamage) (a : Attack) (d : Combatant) (rng : Stream) : Float32 :=
  (rule.settle a (some d) rng).1.damage

theorem settle_isCrit (rule : FinalDamage) (a : Attack) (d : Combatant) (rng : Stream) :
    (rule.settle a (some d) rng).1.isCrit = rule.lands a rng := by
  rw [settle, lands]
  cases rule.critEnabled with
  | false => rfl
  | true =>
    by_cases hit : rng.roll.1 < a.critChance.within 0 1 <;> simp [hit]

theorem dealt_eq (rule : FinalDamage) (a : Attack) (d : Combatant) (rng : Stream) :
    rule.dealt a d rng =
      if rule.lands a rng then (rule.reduced a d * a.critMultiplier.atLeast 1).atLeast 0
      else rule.reduced a d := by
  have settled : (rule.reduced a d).atLeast 0 = rule.reduced a d := atLeast_atLeast _ 0
  rw [dealt, settle, lands, Attack.damage]
  cases rule.critEnabled with
  | false => simpa using settled
  | true =>
    by_cases hit : rng.roll.1 < a.critChance.within 0 1
    · simp [hit]
    · simpa [hit] using settled

/-! ## The defense that is left -/

/-- Nothing is left of a defense that is ignored altogether, if the flat penetration takes off as well. Of
infinite defense nothing is left at any flat penetration. -/
theorem effectiveDefense_pierced (nonneg : 0 ≤ d.defense) (all : 1 ≤ a.penetrationPercent)
    (high : a.penetrationPercent ≤ 1) (bare : 0 ≤ a.penetrationFlat ∨ d.defense.isFinite = false) :
    effectiveDefense a d = 0 := by
  have low := le_trans zero_le_one all
  have unit := isFinite_of_mem_unit low high
  have left : 0 ≤ 1 - a.penetrationPercent := sub_nonneg low unit high
  have ignored : 1 - a.penetrationPercent ≤ 0 := sub_le_zero rfl unit all
  rw [effectiveDefense]
  cases lost : (d.defense * (1 - a.penetrationPercent)).isNaN with
  | true => exact atLeast_of_isNaN (isNaN_sub (.inl lost)) 0
  | false =>
    have flat : 0 ≤ a.penetrationFlat := by
      refine bare.resolve_right fun infinite => ?_
      rcases unpack_mul_cases nonneg left (.inl infinite) with ⟨-, nonzero⟩ | ⟨none, -⟩
      · exact nonzero (.inr ignored)
      · rw [none] at lost
        cases lost
    have remainder := mul_le_zero nonneg left (.inr ignored) lost
    cases none : (d.defense * (1 - a.penetrationPercent) - a.penetrationFlat).isNaN with
    | true => exact atLeast_of_isNaN none 0
    | false => exact atLeast_of_le (le_trans (sub_le_of_nonneg lost flat none) remainder)

/-- An attack that presses harder meets no more defense. The product is no number only where infinite defense
is ignored altogether. -/
theorem effectiveDefense_mono (more : a.Presses d a' d') (low : 0 ≤ a.penetrationPercent)
    (high : a'.penetrationPercent ≤ 1) (nonneg : 0 ≤ d'.defense) :
    effectiveDefense a' d' ≤ effectiveDefense a d := by
  have unit := isFinite_of_mem_unit low (le_trans more.percent high)
  have unit' := isFinite_of_mem_unit (le_trans low more.percent) high
  have number := isNaN_sub_finite isNaN_one unit
  have left : 0 ≤ 1 - a.penetrationPercent := sub_nonneg low unit (le_trans more.percent high)
  have left' : 0 ≤ 1 - a'.penetrationPercent := sub_nonneg (le_trans low more.percent) unit' high
  have nonneg' := le_trans nonneg more.defense
  cases lost : (d.defense * (1 - a.penetrationPercent)).isNaN with
  | true =>
    -- only infinity and zero make no number, so the defense is infinite and the harder attack ignores it too
    have part : (1 - a.penetrationPercent).isFinite = true :=
      isFinite_of_le left (sub_le_of_nonneg isNaN_one low number) rfl
    obtain ⟨endless, zero⟩ := isNaN_mul_cases nonneg' left lost
    have infinite : d.defense.isFinite = false := by simpa [part] using endless
    have ignored : 1 - a.penetrationPercent ≤ 0 := by
      refine zero.resolve_left fun none => ?_
      rw [isFinite_of_le nonneg' none rfl] at infinite
      cases infinite
    have whole : ¬ a.penetrationPercent < 1 := fun below =>
      not_le_of_lt (sub_pos rfl unit below) ignored
    have all : 1 ≤ a.penetrationPercent := le_iff_not_lt.2 ⟨isNaN_one, isNaN_of_isFinite unit, whole⟩
    have bare : 0 ≤ a'.penetrationFlat ∨ d'.defense.isFinite = false := by
      simpa [infinite, whole] using more.bounded
    rw [effectiveDefense_pierced nonneg (le_trans all more.percent) high bare]
    exact le_atLeast isNaN_zero _
  | false =>
    have less : 1 - a'.penetrationPercent ≤ 1 - a.penetrationPercent :=
      sub_mono (le_refl isNaN_one) more.percent (isNaN_sub_finite isNaN_one unit') number
    rw [effectiveDefense, effectiveDefense]
    cases lost' : (d'.defense * (1 - a'.penetrationPercent)).isNaN with
    | true =>
      rw [atLeast_of_isNaN (isNaN_sub (.inl lost'))]
      exact le_atLeast isNaN_zero _
    | false => exact atLeast_sub_mono (mul_mono nonneg left' more.defense less lost' lost) more.flat

/-! ## The damage -/

theorem reduced_mono (rule : FinalDamage) (raw : a.rawAttack ≤ a'.rawAttack)
    (defense : effectiveDefense a' d' ≤ effectiveDefense a d) : rule.reduced a d ≤ rule.reduced a' d' := by
  rw [reduced, reduced]
  cases rule.defenseReduction with
  | false => exact atLeast_mono isNaN_zero raw
  | true => exact atLeast_sub_mono raw defense

theorem lands_mono (rule : FinalDamage) (chance : a.critChance ≤ a'.critChance) {rng : Stream}
    (lands : rule.lands a rng = true) : rule.lands a' rng = true := by
  rw [FinalDamage.lands, Bool.and_eq_true, decide_eq_true_eq] at lands ⊢
  obtain ⟨enabled, hit⟩ := lands
  have wider := within_mono zero_le_one chance
  obtain ⟨number, -⟩ := isNaN_of_le (le_of_lt hit)
  refine ⟨enabled, not_not.1 fun missed => ?_⟩
  have above := le_iff_not_lt.2 ⟨(isNaN_of_le wider).2, number, missed⟩
  exact not_le_of_lt hit (le_trans wider above)

/-- An attack that presses harder does at least as much damage. -/
theorem dealt_mono (rule : FinalDamage) (more : a.Presses d a' d') (low : 0 ≤ a.penetrationPercent)
    (high : a'.penetrationPercent ≤ 1) (nonneg : 0 ≤ d'.defense) (rng : Stream) :
    rule.dealt a d rng ≤ rule.dealt a' d' rng := by
  have reduced := rule.reduced_mono more.raw (effectiveDefense_mono more low high nonneg)
  have something : 0 ≤ rule.reduced a d := le_atLeast isNaN_zero _
  rw [dealt_eq, dealt_eq]
  cases hit : rule.lands a rng with
  | true =>
    rw [rule.lands_mono more.chance hit]
    exact atLeast_mul_mono something (le_atLeast isNaN_one _) reduced
      (atLeast_mono isNaN_one more.multiplier)
  | false =>
    cases rule.lands a' rng with
    | true => exact le_trans reduced (le_atLeast_mul (le_trans something reduced) (le_atLeast isNaN_one _))
    | false => exact reduced

theorem dealt_nonneg (rule : FinalDamage) (a : Attack) (d : Combatant) (rng : Stream) :
    0 ≤ rule.dealt a d rng :=
  le_atLeast isNaN_zero _

theorem effectiveDefense_nonneg (a : Attack) (d : Combatant) : 0 ≤ effectiveDefense a d :=
  le_atLeast isNaN_zero _

/-- Without a critical hit nothing is added to the raw attack. -/
theorem dealt_le_raw (rule : FinalDamage) (number : a.rawAttack.isNaN = false) {rng : Stream}
    (missed : rule.lands a rng = false) : rule.dealt a d rng ≤ a.rawAttack.atLeast 0 := by
  rw [dealt_eq, missed, reduced]
  cases rule.defenseReduction with
  | false => exact le_refl (isNaN_of_le (le_atLeast_self number isNaN_zero)).2
  | true =>
    cases lost : (a.rawAttack - effectiveDefense a d).isNaN with
    | true =>
      simp only [if_true, Bool.false_eq_true, if_false]
      rw [atLeast_of_isNaN lost]
      exact le_atLeast isNaN_zero _
    | false =>
      exact atLeast_mono isNaN_zero (sub_le_of_nonneg number (effectiveDefense_nonneg a d) lost)

end FinalDamage

/-- An attack presses as hard as itself, whatever defense is lost. -/
theorem Attack.Sound.presses {a : Attack} {d : Combatant} (sound : a.Sound d) : a.Presses d a d where
  raw := le_refl sound.raw
  flat := le_refl sound.flat
  percent := le_refl (isNaN_of_le sound.percent.1).2
  chance := le_refl sound.chance
  multiplier := le_refl sound.multiplier
  defense := le_refl (isNaN_of_le sound.defense).2
  bounded := by cases d.defense.isFinite <;> simp

/-- The damage rises with each number of the attack and falls with the defense, whatever is rounded and
whichever numbers are infinite. The defense has one exception: infinite defense of which an attack ignores all
counts as none, so it does not hold off an attack whose flat penetration is negative. -/
theorem FinalDamage.dealt_monotone (rule : FinalDamage) {a : Attack} {d : Combatant} (sound : a.Sound d)
    (rng : Stream) :
    (∀ x, a.rawAttack ≤ x → rule.dealt a d rng ≤ rule.dealt { a with rawAttack := x } d rng) ∧
    (∀ x, a.penetrationFlat ≤ x →
      rule.dealt a d rng ≤ rule.dealt { a with penetrationFlat := x } d rng) ∧
    (∀ x, a.penetrationPercent ≤ x → x ≤ 1 →
      rule.dealt a d rng ≤ rule.dealt { a with penetrationPercent := x } d rng) ∧
    (∀ x, a.critChance ≤ x → rule.dealt a d rng ≤ rule.dealt { a with critChance := x } d rng) ∧
    (∀ x, a.critMultiplier ≤ x →
      rule.dealt a d rng ≤ rule.dealt { a with critMultiplier := x } d rng) ∧
    (∀ x, d.defense ≤ x → x.isFinite = true ∨ a.penetrationPercent < 1 ∨ 0 ≤ a.penetrationFlat →
      rule.dealt a { d with defense := x } rng ≤ rule.dealt a d rng) ∧
    (rule.dealt a d rng).isNaN = false ∧ 0 ≤ rule.dealt a d rng ∧
    ((rule.settle a (some d) rng).1.isCrit = false → rule.dealt a d rng ≤ a.rawAttack.atLeast 0) := by
  have same := sound.presses
  obtain ⟨low, high⟩ := sound.percent
  refine ⟨fun x more => ?_, fun x more => ?_, fun x more top => ?_, fun x more => ?_, fun x more => ?_,
    fun x more bounded => ?_, (isNaN_of_le (rule.dealt_nonneg a d rng)).2, rule.dealt_nonneg a d rng,
    fun missed => rule.dealt_le_raw sound.raw (by rwa [settle_isCrit] at missed)⟩
  · have harder : a.Presses d { a with rawAttack := x } d := { same with raw := more }
    exact rule.dealt_mono harder low high sound.defense rng
  · have harder : a.Presses d { a with penetrationFlat := x } d :=
      { same with
        flat := more
        bounded := same.bounded.imp_right (·.imp_right (·.imp_left (le_trans · more))) }
    exact rule.dealt_mono harder low high sound.defense rng
  · have harder : a.Presses d { a with penetrationPercent := x } d := { same with percent := more }
    exact rule.dealt_mono harder low top sound.defense rng
  · have harder : a.Presses d { a with critChance := x } d := { same with chance := more }
    exact rule.dealt_mono harder low high sound.defense rng
  · have harder : a.Presses d { a with critMultiplier := x } d := { same with multiplier := more }
    exact rule.dealt_mono harder low high sound.defense rng
  · have lower : a.Presses { d with defense := x } a d :=
      { same with defense := more, bounded := by tauto }
    exact rule.dealt_mono lower low high sound.defense rng

/-- An attack of five that ignores half of the defense, with a flat penetration that works against it. -/
def glancing : Attack :=
  { Attack.ofAttacker (.ofProfile { attack := 5, critChance := 0.5 }) with
    penetrationFlat := -5, penetrationPercent := 0.5 }

/-- A defender with a defense of ten. -/
def bulwark : Combatant := .ofProfile { defense := 10 }

theorem glancing_sound : glancing.Sound bulwark where
  raw := by decide +kernel
  flat := by decide +kernel
  percent := by decide +kernel
  chance := by decide +kernel
  multiplier := by decide +kernel
  defense := by decide +kernel

/-- Endless defense does not raise the damage of the glancing attack, and letting it ignore all of the defense
does not lower it. -/
theorem glancing_held_off :
    glancing.Sound bulwark ∧
    FinalDamage.dealt {} glancing { bulwark with defense := .infinity false } (.ofSeed 0) ≤
      FinalDamage.dealt {} glancing bulwark (.ofSeed 0) ∧
    FinalDamage.dealt {} glancing bulwark (.ofSeed 0) ≤
      FinalDamage.dealt {} { glancing with penetrationPercent := 1 } bulwark (.ofSeed 0) := by
  obtain ⟨-, -, percent, -, -, defense, -⟩ := FinalDamage.dealt_monotone {} glancing_sound (.ofSeed 0)
  exact ⟨glancing_sound, defense _ (by decide +kernel) (.inr (.inl (by decide +kernel))),
    percent 1 (by decide +kernel) (by decide +kernel)⟩

/-- The same attack where it ignores all of the defense. -/
def piercing : Attack := { glancing with penetrationPercent := 1 }

/-- A defense of ten stops the attack that ignores all of it, and infinite defense does not: its product with
zero is no number and counts as nothing, before the flat penetration can add to it. -/
theorem endless_defense_lost :
    piercing.Sound bulwark ∧
    bulwark.defense ≤ .infinity false ∧
    FinalDamage.dealt { critEnabled := false } piercing bulwark (.ofSeed 0) = 0 ∧
    FinalDamage.dealt { critEnabled := false } piercing { bulwark with defense := .infinity false }
      (.ofSeed 0) = 5 ∧
    ¬ FinalDamage.dealt { critEnabled := false } piercing { bulwark with defense := .infinity false }
        (.ofSeed 0) ≤
      FinalDamage.dealt { critEnabled := false } piercing bulwark (.ofSeed 0) :=
  ⟨{ glancing_sound with percent := by decide +kernel }, by decide +kernel⟩

end Masquerade
