import Mathlib.Data.List.Induction
import Masquerade.Proofs.Combatant.Domain
import Masquerade.Proofs.Single.Endless

/-!
# Finite changes of a finite combatant

Where a profile and all that is ever added to a combatant are finite, sums can still overflow. The greatest
HP that overflow stay infinity. A change of them that heals then moves the current HP by infinity less
infinity, which is no number. This is the only way by which a number of the combatant is lost, and damage
above zero brings a number back (`Combatant.isNaN_currentHp_change`, `Combatant.finite_calls`).
-/

namespace Masquerade

open Float32 (atLeast_one_endless endless_iff isFinite_of_le isFinite_of_mem_unit isNaN_add isNaN_add_finite
  isNaN_add_of_isNaN isNaN_of_isFinite isNaN_of_le isNaN_one isNaN_sub_endless isNaN_sub_finite isNaN_within
  isNaN_zero le_atLeast le_iff_not_lt le_trans not_le_of_lt unpack_add_endless zero_le_one)

/-- Whether every quantity of a profile is finite. -/
def Profile.isFinite (p : Profile) : Bool :=
  [p.maxHp, p.attack, p.defense, p.critChance, p.critMultiplier, p.penetrationFlat,
    p.penetrationPercent].all Float32.isFinite

namespace Combatant

/-- Whether a change is by a finite amount. -/
def Change.isFinite : Change → Bool
  | .speedRate _ => true
  | .attack d | .defense d | .critChance d | .critMultiplier d | .penetrationFlat d
  | .penetrationPercent d | .maxHp d _ | .currentHp d | .damage d => d.isFinite

/-- Whether the current HP move along with the greatest HP. -/
def Change.heals : Change → Bool
  | .maxHp _ heal => heal
  | _ => false

/-- Whether a change is damage above zero. -/
def Change.hurts : Change → Bool
  | .damage amount => 0 < amount
  | _ => false

/-- The change that a call makes, if any. -/
def Call.change? : Call → Option Change
  | .direct change => some change
  | .byStat stat amount heal => Change.ofStat? stat amount heal

/-- Whether a call is with a finite amount. -/
def Call.isFinite : Call → Bool
  | .direct change => change.isFinite
  | .byStat _ amount _ => amount.isFinite

def Call.heals (call : Call) : Bool := call.change?.any Change.heals

def Call.hurts (call : Call) : Bool := call.change?.any Change.hurts

theorem call_eq (c : Combatant) (call : Call) : c.call call = call.change?.elim c c.change := by
  cases call with
  | direct change => rfl
  | byStat stat amount heal =>
    rw [Combatant.call, add?_eq, Call.change?]
    cases Change.ofStat? stat amount heal <;> rfl

theorem Call.isFinite_change {call : Call} (finite : call.isFinite = true) :
    ∀ change ∈ call.change?, change.isFinite = true := by
  cases call with
  | direct change =>
    rintro _ ⟨⟩
    exact finite
  | byStat stat amount heal =>
    rintro _ made
    cases stat <;> cases made <;> first | exact finite | rfl

variable {c : Combatant}

/-! ## One change -/

/-- Damage is to the current HP alone. -/
theorem takeDamage_eq (c : Combatant) (amount : Float32) :
    c.takeDamage amount = { c with currentHp := (c.takeDamage amount).currentHp } := by
  rw [Combatant.takeDamage]
  split <;> rfl

/-- The chances are numbers, and so are the current HP while the greatest HP are finite. -/
structure Numeric (c : Combatant) : Prop extends InDomain c where
  chance : c.critChance.isNaN = false
  pierced : c.penetrationPercent.isNaN = false
  hp : c.maxHp.isFinite = true → c.currentHp.isNaN = false

/-- Greatest HP that are infinite stay so. -/
theorem InDomain.endless_change (h : c.InDomain) {change : Change} (finite : change.isFinite = true)
    (endless : c.maxHp.isFinite = false) : (c.change change).maxHp.isFinite = false := by
  have infinite := (endless_iff h.zero_le_maxHp).1 endless
  cases change with
  | maxHp d heal =>
    have raised : (c.maxHp + d).toModel.unpack = .infinity .positive :=
      unpack_add_endless infinite finite
    show ((c.maxHp + d).atLeast 1).isFinite = false
    rw [atLeast_one_endless raised]
    show (c.maxHp + d).toModel.unpack.isFinite = false
    rw [raised]
    rfl
  | damage amount =>
    show (c.takeDamage amount).maxHp.isFinite = false
    rw [takeDamage_eq]
    exact endless
  | _ => exact endless

/-- Where healing leaves the current HP before they are moved into their range: at no number if the
greatest HP were infinite. -/
theorem InDomain.isNaN_heal (h : c.InDomain) {d : Float32} (finite : d.isFinite = true) :
    (c.currentHp + ((c.maxHp + d).atLeast 1 - c.maxHp)).isNaN = true ↔
      c.maxHp.isFinite = false ∨ c.currentHp.isNaN = true := by
  cases endless : c.maxHp.isFinite with
  | false =>
    have infinite := (endless_iff h.zero_le_maxHp).1 endless
    have raised : (c.maxHp + d).toModel.unpack = .infinity .positive :=
      unpack_add_endless infinite finite
    have lost : ((c.maxHp + d).atLeast 1 - c.maxHp).isNaN = true := by
      rw [atLeast_one_endless raised]
      exact isNaN_sub_endless raised infinite
    exact iff_of_true (isNaN_add_of_isNaN (.inr lost)) (.inl rfl)
  | true =>
    have full : 1 ≤ (c.maxHp + d).atLeast 1 := le_atLeast isNaN_one _
    have gained : ((c.maxHp + d).atLeast 1 - c.maxHp).isNaN = false :=
      isNaN_sub_finite (isNaN_of_le full).2 endless
    cases none : c.currentHp.isNaN with
    | true => exact iff_of_true (isNaN_add_of_isNaN (.inl none)) (.inr rfl)
    | false =>
      obtain ⟨low, high⟩ := h.currentHp.resolve_left (Bool.eq_false_iff.1 none)
      have number := isNaN_add (isFinite_of_le low high endless) gained
      rw [number]
      simp

/-- After a change the current HP are no number if the change heals at infinite greatest HP, or if they
were none before and the change does not hurt. -/
theorem InDomain.isNaN_currentHp_change (h : c.InDomain) {change : Change}
    (finite : change.isFinite = true) :
    (c.change change).currentHp.isNaN = true ↔
      change.heals = true ∧ c.maxHp.isFinite = false ∨
        c.currentHp.isNaN = true ∧ change.hurts = false := by
  cases change with
  | maxHp d heal =>
    have full : 1 ≤ (c.maxHp + d).atLeast 1 := le_atLeast isNaN_one _
    show ((if heal then c.currentHp + ((c.maxHp + d).atLeast 1 - c.maxHp) else c.currentHp).within 0
      ((c.maxHp + d).atLeast 1)).isNaN = true ↔ _
    rw [isNaN_within (le_trans zero_le_one full)]
    cases heal with
    | true => simpa [Change.heals, Change.hurts] using h.isNaN_heal finite
    | false => simp [Change.heals, Change.hurts]
  | currentHp d =>
    show ((c.currentHp + d).within 0 c.maxHp).isNaN = true ↔ _
    rw [isNaN_within h.zero_le_maxHp]
    cases none : c.currentHp.isNaN with
    | true => exact iff_of_true (isNaN_add_of_isNaN (.inl none)) (.inr ⟨rfl, rfl⟩)
    | false =>
      rw [isNaN_add_finite none finite]
      simp [Change.heals]
  | damage amount =>
    show (c.takeDamage amount).currentHp.isNaN = true ↔ _
    have real : amount.isNaN = false := isNaN_of_isFinite finite
    by_cases harmless : amount ≤ 0
    · have calm : ¬ 0 < amount := (le_iff_not_lt.1 harmless).2.2
      rw [Combatant.takeDamage, if_pos harmless]
      simp [Change.heals, Change.hurts, calm]
    · have harmful : 0 < amount := by
        by_contra calm
        exact harmless (le_iff_not_lt.2 ⟨real, isNaN_zero, calm⟩)
      have left : 0 ≤ (c.currentHp - amount).atLeast 0 := le_atLeast isNaN_zero _
      rw [Combatant.takeDamage, if_neg harmless]
      refine iff_of_false (Bool.eq_false_iff.1 (isNaN_of_le left).2) ?_
      simp [Change.heals, Change.hurts, harmful]
  | _ => simp [Combatant.change, addAttack, addDefense, addCritChance, addCritMultiplier, addSpeedRate,
      addPenetrationFlat, addPenetrationPercent, Change.heals, Change.hurts]

/-- A chance that a finite amount is added to stays a number. -/
theorem isNaN_chance {x d : Float32} (domain : x.isNaN = true ∨ 0 ≤ x ∧ x ≤ 1)
    (number : x.isNaN = false) (finite : d.isFinite = true) : ((x + d).within 0 1).isNaN = false := by
  obtain ⟨low, high⟩ := domain.resolve_left (Bool.eq_false_iff.1 number)
  rw [isNaN_within zero_le_one]
  exact isNaN_add (isFinite_of_mem_unit low high) (isNaN_of_isFinite finite)

theorem Numeric.change (h : c.Numeric) {change : Change} (finite : change.isFinite = true) :
    (c.change change).Numeric where
  toInDomain := h.toInDomain.change change
  chance := by
    cases change with
    | critChance d => exact isNaN_chance h.critChance h.chance finite
    | damage amount =>
      show (c.takeDamage amount).critChance.isNaN = false
      rw [takeDamage_eq]
      exact h.chance
    | _ => exact h.chance
  pierced := by
    cases change with
    | penetrationPercent d => exact isNaN_chance h.penetrationPercent h.pierced finite
    | damage amount =>
      show (c.takeDamage amount).penetrationPercent.isNaN = false
      rw [takeDamage_eq]
      exact h.pierced
    | _ => exact h.pierced
  hp := by
    intro bounded
    have before : c.maxHp.isFinite = true := by
      by_contra endless
      rw [Bool.not_eq_true] at endless
      rw [h.endless_change finite endless] at bounded
      cases bounded
    rw [Bool.eq_false_iff, Ne, h.isNaN_currentHp_change finite, before, h.hp before]
    simp

/-! ## Any calls -/

theorem Numeric.call (h : c.Numeric) {call : Call} (finite : call.isFinite = true) :
    (c.call call).Numeric := by
  rw [call_eq]
  cases made : call.change? with
  | none => exact h
  | some change => exact h.change (Call.isFinite_change finite change made)

theorem InDomain.isNaN_currentHp_call (h : c.InDomain) {call : Call} (finite : call.isFinite = true) :
    (c.call call).currentHp.isNaN = true ↔
      call.heals = true ∧ c.maxHp.isFinite = false ∨
        c.currentHp.isNaN = true ∧ call.hurts = false := by
  rw [call_eq, Call.heals, Call.hurts]
  cases made : call.change? with
  | none => simp
  | some change => simpa using h.isNaN_currentHp_change (Call.isFinite_change finite change made)

theorem ofProfile_numeric {p : Profile} (entries : p.isFinite = true) : (ofProfile p).Numeric := by
  rw [Profile.isFinite, List.all_eq_true] at entries
  have chance := entries p.critChance (by simp)
  have pierced := entries p.penetrationPercent (by simp)
  have full : 1 ≤ p.maxHp.atLeast 1 := le_atLeast isNaN_one _
  exact {
    ofProfile_inDomain p with
    chance := (isNaN_within zero_le_one _).trans (isNaN_of_isFinite chance)
    pierced := (isNaN_within zero_le_one _).trans (isNaN_of_isFinite pierced)
    hp := fun _ => (isNaN_of_le full).2 }

theorem Numeric.calls (h : c.Numeric) (calls : List Call) (finite : ∀ call ∈ calls, call.isFinite = true) :
    (calls.foldl Combatant.call c).Numeric := by
  induction calls generalizing c with
  | nil => exact h
  | cons first rest ih =>
    rw [List.forall_mem_cons] at finite
    exact ih (h.call finite.1) finite.2

/-- Some call of a row heals at infinite greatest HP, and none after it hurts. -/
def Lost (c : Combatant) (calls : List Call) : Prop :=
  ∃ before call after, calls = before ++ call :: after ∧ call.heals = true ∧
    (before.foldl Combatant.call c).maxHp.isFinite = false ∧ ∀ later ∈ after, later.hurts = false

theorem lost_concat {calls : List Call} {last : Call} :
    c.Lost (calls ++ [last]) ↔
      last.heals = true ∧ (calls.foldl Combatant.call c).maxHp.isFinite = false ∨
        c.Lost calls ∧ last.hurts = false := by
  constructor
  · rintro ⟨before, call, after, row, heals, endless, calm⟩
    obtain rfl | ⟨after, end_, rfl⟩ := List.eq_nil_or_concat' after
    · obtain ⟨rfl, rfl⟩ := List.append_singleton_inj.1 row
      exact .inl ⟨heals, endless⟩
    · rw [← List.cons_append, ← List.append_assoc] at row
      obtain ⟨rfl, rfl⟩ := List.append_singleton_inj.1 row
      exact .inr ⟨⟨before, call, after, rfl, heals, endless, fun later member =>
        calm later (List.mem_append_left _ member)⟩, calm last (by simp)⟩
  · rintro (⟨heals, endless⟩ | ⟨⟨before, call, after, rfl, heals, endless, calm⟩, still⟩)
    · exact ⟨calls, last, [], rfl, heals, endless, by simp⟩
    · refine ⟨before, call, after ++ [last], by simp, heals, endless, fun later member => ?_⟩
      obtain member | member := List.mem_append.1 member
      · exact calm later member
      · rw [List.mem_singleton.1 member]
        exact still

theorem Numeric.isNaN_currentHp_calls (h : c.Numeric) (number : c.currentHp.isNaN = false)
    (calls : List Call) (finite : ∀ call ∈ calls, call.isFinite = true) :
    (calls.foldl Combatant.call c).currentHp.isNaN = true ↔ c.Lost calls := by
  induction calls using List.reverseRecOn with
  | nil => exact iff_of_false (Bool.eq_false_iff.1 number) (by simp [Lost])
  | append_singleton calls last ih =>
    rw [List.forall_mem_append, List.forall_mem_singleton] at finite
    have reached := (h.calls calls finite.1).toInDomain
    rw [List.foldl_append, List.foldl_cons, List.foldl_nil, reached.isNaN_currentHp_call finite.2,
      lost_concat, ih finite.1]

/-- A combatant from a finite profile after any finite calls: the chances are numbers between zero and one,
and every other number is one, the current HP apart. These lie between zero and the greatest HP, or are no
number; they are none exactly if some call healed when the greatest HP were infinite and no later call hurt,
so they are a number as long as the greatest HP are finite. -/
theorem finite_calls (p : Profile) (entries : p.isFinite = true) (calls : List Call)
    (finite : ∀ call ∈ calls, call.isFinite = true) :
    let c := calls.foldl call (ofProfile p)
    (∀ x ∈ [c.maxHp, c.attack, c.defense, c.critChance, c.critMultiplier, c.penetrationFlat,
        c.penetrationPercent], x.isNaN = false) ∧
      (0 ≤ c.critChance ∧ c.critChance ≤ 1) ∧
      (0 ≤ c.penetrationPercent ∧ c.penetrationPercent ≤ 1) ∧
      (c.currentHp.isNaN = false → 0 ≤ c.currentHp ∧ c.currentHp ≤ c.maxHp) ∧
      (c.maxHp.isFinite = true → c.currentHp.isNaN = false) ∧
      (c.currentHp.isNaN = true ↔ (ofProfile p).Lost calls) := by
  intro c
  have start := ofProfile_numeric entries
  have h : c.Numeric := start.calls calls finite
  have number : (ofProfile p).currentHp.isNaN = false :=
    (isNaN_of_le (le_atLeast isNaN_one p.maxHp)).2
  refine ⟨?_, h.critChance.resolve_left (Bool.eq_false_iff.1 h.chance),
    h.penetrationPercent.resolve_left (Bool.eq_false_iff.1 h.pierced),
    fun number => h.currentHp.resolve_left (Bool.eq_false_iff.1 number), h.hp,
    start.isNaN_currentHp_calls number calls finite⟩
  simp only [List.forall_mem_cons]
  exact ⟨(isNaN_of_le h.maxHp).2, (isNaN_of_le h.attack).2, (isNaN_of_le h.defense).2, h.chance,
    (isNaN_of_le h.critMultiplier).2, (isNaN_of_le h.penetrationFlat).2, h.pierced, by simp⟩

/-- The greatest finite HP. -/
def brimful : Profile := { maxHp := .ofScaled false 0xffffff 104 }

/-- The greatest HP doubled, and then one more with healing. -/
def overfill : List Call :=
  [.direct (.maxHp brimful.maxHp false), .direct (.maxHp 1 true)]

end Combatant

open Combatant in
/-- The second change of the greatest HP does not move them, and leaves current HP that are no number. -/
theorem overfill_loses_hp :
    brimful.isFinite = true ∧ (∀ call ∈ overfill, call.isFinite = true) ∧
      ((overfill.take 1).foldl call (ofProfile brimful)).currentHp = brimful.maxHp ∧
      (overfill.foldl call (ofProfile brimful)).maxHp =
        ((overfill.take 1).foldl call (ofProfile brimful)).maxHp ∧
      (overfill.foldl call (ofProfile brimful)).currentHp.isNaN = true := by
  decide +kernel

open Combatant in
/-- Damage of one brings a number back. -/
theorem overfill_hurt_recovers :
    let calls := overfill ++ [.direct (.damage 1)]
    let c := calls.foldl call (ofProfile brimful)
    brimful.isFinite = true ∧ (∀ call ∈ calls, call.isFinite = true) ∧ ¬ (ofProfile brimful).Lost calls ∧
      0 ≤ c.currentHp ∧ c.currentHp ≤ c.maxHp := by
  intro calls c
  have entries : brimful.isFinite = true := by decide +kernel
  have finite : ∀ call ∈ calls, call.isFinite = true := by decide +kernel
  have number : c.currentHp.isNaN = false := by decide +kernel
  obtain ⟨-, -, -, range, -, lost⟩ := finite_calls brimful entries calls finite
  exact ⟨entries, finite, fun gone => Bool.eq_false_iff.1 number (lost.2 gone), range number⟩

end Masquerade
