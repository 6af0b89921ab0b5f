import Masquerade.Combatant
import Masquerade.Proofs.Single.Points

/-!
# The domains of a combatant's numbers

Whatever a combatant is made from and however it is changed, every number of it lies in its domain or, for
the chances and the current HP, is not a number at all (`Combatant.InDomain`). So there is always a range
to move a number into: a call that refuses bounds that are none never does (`Combatant.InDomain.checked?_eq`).
Damage does not raise the current HP, and makes a number of it where it was none.
-/

namespace Float32

/-- The point of `[lo, hi]` next to `x`, if the bounds are numbers and in order. -/
def within? (x lo hi : Float32) : Option Float32 :=
  if lo ≤ hi then some (x.within lo hi) else none

theorem within?_eq {lo hi : Float32} (ordered : lo ≤ hi) (x : Float32) :
    x.within? lo hi = some (x.within lo hi) :=
  if_pos ordered

end Float32

namespace Masquerade

open Float32 (isNaN_of_le isNaN_one isNaN_sub isNaN_zero le_atLeast le_iff_not_lt le_of_lt le_refl le_trans
  not_le_of_lt sub_le_of_pos within_mem within_of_isNaN within?_eq zero_le_one)

namespace Combatant

/-- A change of one number of a combatant. -/
inductive Change where
  | attack (d : Float32)
  | defense (d : Float32)
  | critChance (d : Float32)
  | critMultiplier (d : Float32)
  | speedRate (d : Int32)
  | penetrationFlat (d : Float32)
  | penetrationPercent (d : Float32)
  | maxHp (d : Float32) (heal : Bool)
  | currentHp (d : Float32)
  | damage (amount : Float32)

/-- The change that adding to a stat makes, if the stat has a value in battle. -/
def Change.ofStat? (stat : Stat) (amount : Float32) (heal : Bool) : Option Change :=
  match stat with
  | .maxHp => some (.maxHp amount heal)
  | .attack => some (.attack amount)
  | .defense => some (.defense amount)
  | .critChance => some (.critChance amount)
  | .critMultiplier => some (.critMultiplier amount)
  | .speedRate => some (.speedRate amount.roundToInt32)
  | .luck => none
  | .penetrationFlat => some (.penetrationFlat amount)
  | .penetrationPercent => some (.penetrationPercent amount)

/-- A call that changes a combatant, directly or by the key of a stat. -/
inductive Call where
  | direct (change : Change)
  | byStat (stat : Stat) (amount : Float32) (heal : Bool)

def change (c : Combatant) : Change → Combatant
  | .attack d => c.addAttack d
  | .defense d => c.addDefense d
  | .critChance d => c.addCritChance d
  | .critMultiplier d => c.addCritMultiplier d
  | .speedRate d => c.addSpeedRate d
  | .penetrationFlat d => c.addPenetrationFlat d
  | .penetrationPercent d => c.addPenetrationPercent d
  | .maxHp d heal => c.addMaxHp d heal
  | .currentHp d => c.addCurrentHp d
  | .damage amount => c.takeDamage amount

def call (c : Combatant) : Call → Combatant
  | .direct change => c.change change
  | .byStat stat amount heal => (c.add? stat amount heal).getD c

theorem add?_eq (c : Combatant) (stat : Stat) (amount : Float32) (heal : Bool) :
    c.add? stat amount heal = (Change.ofStat? stat amount heal).map c.change := by
  cases stat <;> rfl

/-! ## The domains -/

/-- Every number lies in its domain. The chances and the current HP may also be no numbers. -/
structure InDomain (c : Combatant) : Prop where
  maxHp : 1 ≤ c.maxHp
  attack : 0 ≤ c.attack
  defense : 0 ≤ c.defense
  critMultiplier : 1 ≤ c.critMultiplier
  penetrationFlat : 0 ≤ c.penetrationFlat
  speedRate : 0 ≤ c.speedRate
  critChance : c.critChance.isNaN = true ∨ 0 ≤ c.critChance ∧ c.critChance ≤ 1
  penetrationPercent :
    c.penetrationPercent.isNaN = true ∨ 0 ≤ c.penetrationPercent ∧ c.penetrationPercent ≤ 1
  currentHp : c.currentHp.isNaN = true ∨ 0 ≤ c.currentHp ∧ c.currentHp ≤ c.maxHp

theorem within_domain {lo hi : Float32} (ordered : lo ≤ hi) (x : Float32) :
    (x.within lo hi).isNaN = true ∨ lo ≤ x.within lo hi ∧ x.within lo hi ≤ hi := by
  cases none : x.isNaN with
  | true =>
    rw [within_of_isNaN none]
    exact .inl none
  | false => exact .inr (within_mem ordered none)

theorem ofProfile_inDomain (p : Profile) : (ofProfile p).InDomain where
  maxHp := le_atLeast isNaN_one _
  attack := le_atLeast isNaN_zero _
  defense := le_atLeast isNaN_zero _
  critMultiplier := le_atLeast isNaN_one _
  penetrationFlat := le_atLeast isNaN_zero _
  speedRate := Int32.zero_le_max _
  critChance := within_domain zero_le_one _
  penetrationPercent := within_domain zero_le_one _
  currentHp := by
    have full : 1 ≤ p.maxHp.atLeast 1 := le_atLeast isNaN_one _
    exact .inr ⟨le_trans zero_le_one full, le_refl (isNaN_of_le full).2⟩

variable {c : Combatant}

theorem InDomain.zero_le_maxHp (h : c.InDomain) : 0 ≤ c.maxHp := le_trans zero_le_one h.maxHp

/-- Damage does not raise the current HP. -/
theorem InDomain.takeDamage_le (h : c.InDomain) (number : c.currentHp.isNaN = false)
    (amount : Float32) : (c.takeDamage amount).currentHp ≤ c.currentHp := by
  rw [takeDamage]
  split
  · exact le_refl number
  · next harmful =>
    show (c.currentHp - amount).atLeast 0 ≤ c.currentHp
    rw [Float32.atLeast]
    split
    · next left =>
      -- some HP is left, so the amount is a number, and above zero
      have some : (c.currentHp - amount).isNaN = false := (isNaN_of_le (le_of_lt left)).2
      have real : amount.isNaN = false := by
        by_contra none
        rw [Bool.not_eq_false] at none
        exact absurd (isNaN_sub (.inr none)) (Bool.eq_false_iff.1 some)
      have pos : 0 < amount := by
        by_contra below
        exact harmful (le_iff_not_lt.2 ⟨real, isNaN_zero, below⟩)
      exact sub_le_of_pos pos number some
    · exact (h.currentHp.resolve_left (Bool.eq_false_iff.1 number)).1

theorem takeDamage_of_isNaN {amount : Float32} (harmful : ¬ amount ≤ 0)
    (none : c.currentHp.isNaN = true) : (c.takeDamage amount).currentHp = 0 := by
  have gone : (c.currentHp - amount).isNaN = true := isNaN_sub (.inl none)
  have below : ¬ 0 < c.currentHp - amount := fun left =>
    Bool.eq_false_iff.1 (isNaN_of_le (le_of_lt left)).2 gone
  rw [takeDamage, if_neg harmful]
  show (c.currentHp - amount).atLeast 0 = 0
  rw [Float32.atLeast, if_neg below]

theorem InDomain.takeDamage (h : c.InDomain) (amount : Float32) : (c.takeDamage amount).InDomain := by
  by_cases harmless : amount ≤ 0
  · rw [Combatant.takeDamage, if_pos harmless]
    exact h
  · have hurt : c.takeDamage amount = { c with currentHp := (c.currentHp - amount).atLeast 0 } :=
      if_neg harmless
    have hp : 0 ≤ (c.takeDamage amount).currentHp ∧ (c.takeDamage amount).currentHp ≤ c.maxHp := by
      obtain none | ⟨-, upper⟩ := h.currentHp
      · rw [takeDamage_of_isNaN harmless none]
        exact ⟨le_refl isNaN_zero, h.zero_le_maxHp⟩
      · have lower := h.takeDamage_le (isNaN_of_le upper).1 amount
        refine ⟨?_, le_trans lower upper⟩
        rw [hurt]
        exact le_atLeast isNaN_zero _
    rw [hurt] at hp ⊢
    exact { h with currentHp := .inr hp }

theorem InDomain.change (h : c.InDomain) (change : Change) : (c.change change).InDomain := by
  cases change with
  | attack d => exact { h with attack := le_atLeast isNaN_zero _ }
  | defense d => exact { h with defense := le_atLeast isNaN_zero _ }
  | critChance d => exact { h with critChance := within_domain zero_le_one _ }
  | critMultiplier d => exact { h with critMultiplier := le_atLeast isNaN_one _ }
  | speedRate d => exact { h with speedRate := Int32.zero_le_max _ }
  | penetrationFlat d => exact { h with penetrationFlat := le_atLeast isNaN_zero _ }
  | penetrationPercent d => exact { h with penetrationPercent := within_domain zero_le_one _ }
  | maxHp d heal =>
    have full : 1 ≤ (c.maxHp + d).atLeast 1 := le_atLeast isNaN_one _
    exact { h with
      maxHp := full
      currentHp := within_domain (le_trans zero_le_one full) _ }
  | currentHp d => exact { h with currentHp := within_domain h.zero_le_maxHp _ }
  | damage amount => exact h.takeDamage amount

theorem InDomain.call (h : c.InDomain) (call : Call) : (c.call call).InDomain := by
  cases call with
  | direct change => exact h.change change
  | byStat stat amount heal =>
    rw [Combatant.call, add?_eq]
    cases Change.ofStat? stat amount heal with
    | none => exact h
    | some change => exact h.change change

theorem foldl_call_inDomain (h : c.InDomain) (calls : List Call) :
    (calls.foldl Combatant.call c).InDomain := by
  induction calls generalizing c with
  | nil => exact h
  | cons call rest ih => exact ih (h.call call)

/-! ## Ranges that are none -/

/-- A new combatant, if every range into which a number is to be moved is one. -/
def ofProfileChecked? (p : Profile) : Option Combatant := do
  let critChance ← p.critChance.within? 0 1
  let penetrationPercent ← p.penetrationPercent.within? 0 1
  return { ofProfile p with critChance, penetrationPercent }

/-- A change, if the range into which the changed number is to be moved is one. -/
def checked? (c : Combatant) : Change → Option Combatant
  | .critChance d => do
    let critChance ← (c.critChance + d).within? 0 1
    return { c with critChance }
  | .penetrationPercent d => do
    let penetrationPercent ← (c.penetrationPercent + d).within? 0 1
    return { c with penetrationPercent }
  | .maxHp d heal => do
    let maxHp := (c.maxHp + d).atLeast 1
    let hp := if heal then c.currentHp + (maxHp - c.maxHp) else c.currentHp
    let currentHp ← hp.within? 0 maxHp
    return { c with maxHp, currentHp }
  | .currentHp d => do
    let currentHp ← (c.currentHp + d).within? 0 c.maxHp
    return { c with currentHp }
  | change => some (c.change change)

/-- A call, if the range into which the changed number is to be moved is one. -/
def callChecked? (c : Combatant) : Call → Option Combatant
  | .direct change => c.checked? change
  | .byStat stat amount heal =>
    match Change.ofStat? stat amount heal with
    | none => some c
    | some change => c.checked? change

theorem ofProfileChecked?_eq (p : Profile) : ofProfileChecked? p = some (ofProfile p) := by
  rw [ofProfileChecked?, within?_eq zero_le_one, within?_eq zero_le_one]
  rfl

theorem InDomain.checked?_eq (h : c.InDomain) (change : Change) :
    c.checked? change = some (c.change change) := by
  cases change with
  | critChance d =>
    rw [checked?, within?_eq zero_le_one]
    rfl
  | penetrationPercent d =>
    rw [checked?, within?_eq zero_le_one]
    rfl
  | maxHp d heal =>
    have full : 1 ≤ (c.maxHp + d).atLeast 1 := le_atLeast isNaN_one _
    rw [checked?, within?_eq (le_trans zero_le_one full)]
    rfl
  | currentHp d =>
    rw [checked?, within?_eq h.zero_le_maxHp]
    rfl
  | _ => rfl

theorem InDomain.callChecked?_eq (h : c.InDomain) (call : Call) :
    c.callChecked? call = some (c.call call) := by
  cases call with
  | direct change => exact h.checked?_eq change
  | byStat stat amount heal =>
    rw [callChecked?, Combatant.call, add?_eq]
    cases Change.ofStat? stat amount heal with
    | none => rfl
    | some change => exact h.checked?_eq change

/-! ## Any calls -/

/-- After any calls to a combatant that was made from any profile, every number lies in its domain. The
five that are bounded on one side only are numbers; no call finds bounds that are no range; and damage
neither raises current HP that are a number nor makes none of them, while damage above zero makes a number
of current HP that are none. -/
theorem calls_inDomain (p : Profile) (calls : List Call) :
    let c := calls.foldl call (ofProfile p)
    c.InDomain ∧
      (∀ x ∈ [c.maxHp, c.attack, c.defense, c.penetrationFlat, c.critMultiplier], x.isNaN = false) ∧
      (ofProfileChecked? p = some (ofProfile p) ∧ ∀ call, c.callChecked? call = some (c.call call)) ∧
      (∀ amount, c.currentHp.isNaN = false →
        (c.takeDamage amount).currentHp.isNaN = false ∧
          (c.takeDamage amount).currentHp ≤ c.currentHp) ∧
      ∀ amount, 0 < amount → c.currentHp.isNaN = true →
        (c.takeDamage amount).currentHp.isNaN = false := by
  intro c
  have h : c.InDomain := foldl_call_inDomain (ofProfile_inDomain p) calls
  refine ⟨h, ?_, ⟨ofProfileChecked?_eq p, h.callChecked?_eq⟩, fun amount number => ?_,
    fun amount harmful none => ?_⟩
  · simp only [List.forall_mem_cons]
    exact ⟨(isNaN_of_le h.maxHp).2, (isNaN_of_le h.attack).2, (isNaN_of_le h.defense).2,
      (isNaN_of_le h.penetrationFlat).2, (isNaN_of_le h.critMultiplier).2, by simp⟩
  · have lower := h.takeDamage_le number amount
    exact ⟨(isNaN_of_le lower).1, lower⟩
  · rw [takeDamage_of_isNaN (not_le_of_lt harmful) none]
    exact isNaN_zero

end Combatant

/-- A combatant with endless HP loses endless HP, which leaves no number, and damage makes a number of it
again. -/
theorem endless_hp_lost :
    let c := [Combatant.Call.direct (.currentHp (.infinity true))].foldl Combatant.call
      (.ofProfile { maxHp := .infinity false })
    c.InDomain ∧ 0 < (1 : Float32) ∧ c.currentHp.isNaN = true ∧
      (c.takeDamage 1).currentHp.isNaN = false := by
  intro c
  have none : c.currentHp.isNaN = true := by decide +kernel
  have pos : 0 < (1 : Float32) := by decide
  obtain ⟨inDomain, -, -, -, restored⟩ := Combatant.calls_inDomain { maxHp := .infinity false }
    [.direct (.currentHp (.infinity true))]
  exact ⟨inDomain, pos, none, restored 1 pos none⟩

end Masquerade
