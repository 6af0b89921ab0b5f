import Mathlib.Data.Prod.Lex
import Masquerade.Single

/-!
# The order of quantities

Every quantity but a NaN has a place on the line (`place?`), and the comparisons of quantities are those
of their places: a NaN is in relation to nothing, and the two zeros share one place. What moving a
number into a range does to it is then a matter of a linear order: it comes to lie in the range
(`le_atLeast`, `within_mem`), moving it there again changes nothing, and a number held between zero and a
positive bound is positive exactly if it was positive before (`within_le_zero_iff`).
-/

open Float.Model

namespace Float32

/-- The place on the line, in lexicographic order: first class and sign, then exponent, then mantissa. -/
def placeOf : UnpackedFloat → Option (Int ×ₗ Int ×ₗ Int)
  | .notANumber => none
  | .infinity .negative => some (toLex (-2, toLex (0, 0)))
  | .finite .negative m e _ => some (toLex (-1, toLex (-e, -(m : Int))))
  | .zero _ => some (toLex (0, toLex (0, 0)))
  | .finite .positive m e _ => some (toLex (1, toLex (e, (m : Int))))
  | .infinity .positive => some (toLex (2, toLex (0, 0)))

def place? (x : Float32) : Option (Int ×ₗ Int ×ₗ Int) := placeOf x.toModel.unpack

theorem compare_eq_lt_iff (a b : UnpackedFloat) :
    a.compare b = some .lt ↔ ∃ p, placeOf a = some p ∧ ∃ q, placeOf b = some q ∧ p < q := by
  -- only for two numbers of one sign are exponents and mantissas looked at
  rcases a with (_ | _) | _ | _ | ⟨_ | _, m, e, hm⟩ <;>
  rcases b with (_ | _) | _ | _ | ⟨_ | _, n, f, hn⟩ <;>
  dsimp only [placeOf, UnpackedFloat.compare] <;>
  simp [Prod.Lex.toLex_lt_toLex, Ordering.then_eq_lt, Ordering.then_eq_gt, compare_lt_iff_lt,
    compare_gt_iff_gt]
  case infinity.negative.infinity.positive => rfl

theorem compare_eq_eq_iff (a b : UnpackedFloat) :
    a.compare b = some .eq ↔ ∃ p, placeOf a = some p ∧ placeOf b = some p := by
  rcases a with (_ | _) | _ | _ | ⟨_ | _, m, e, hm⟩ <;>
  rcases b with (_ | _) | _ | _ | ⟨_ | _, n, f, hn⟩ <;>
  dsimp only [placeOf, UnpackedFloat.compare] <;>
  simp [Ordering.then_eq_eq]
  case infinity.negative.infinity.negative | infinity.positive.infinity.positive => rfl
  case finite.negative.finite.negative | finite.positive.finite.positive => omega

theorem lt_iff {x y : Float32} :
    x < y ↔ ∃ p, x.place? = some p ∧ ∃ q, y.place? = some q ∧ p < q := by
  rw [place?, place?, ← compare_eq_lt_iff]
  show decide (x.toModel < y.toModel) = true ↔ _
  rw [decide_eq_true_iff]
  show (x.toModel.unpack.compare y.toModel.unpack == some .lt) = true ↔ _
  exact beq_iff_eq

theorem le_iff {x y : Float32} :
    x ≤ y ↔ ∃ p, x.place? = some p ∧ ∃ q, y.place? = some q ∧ p ≤ q := by
  have split : x ≤ y ↔ x.toModel.unpack.compare y.toModel.unpack = some .lt ∨
      x.toModel.unpack.compare y.toModel.unpack = some .eq := by
    show decide (x.toModel ≤ y.toModel) = true ↔ _
    rw [decide_eq_true_iff]
    show (x.toModel.unpack.compare y.toModel.unpack).any (·.isLE) = true ↔ _
    cases x.toModel.unpack.compare y.toModel.unpack with
    | none => simp
    | some o => cases o <;> simp
  rw [split, compare_eq_lt_iff, compare_eq_eq_iff]
  constructor
  · rintro (⟨p, hp, q, hq, h⟩ | ⟨p, hp, hq⟩)
    · exact ⟨p, hp, q, hq, h.le⟩
    · exact ⟨p, hp, p, hq, le_refl p⟩
  · rintro ⟨p, hp, q, hq, h⟩
    rcases h.lt_or_eq with h | rfl
    · exact .inl ⟨p, hp, q, hq, h⟩
    · exact .inr ⟨p, hp, hq⟩

variable {x y z : Float32}

theorem lt_trans (h₁ : x < y) (h₂ : y < z) : x < z := by
  obtain ⟨p, hp, q, hq, hpq⟩ := lt_iff.1 h₁
  obtain ⟨q', hq', r, hr, hqr⟩ := lt_iff.1 h₂
  obtain rfl : q = q' := Option.some.inj (hq.symm.trans hq')
  exact lt_iff.2 ⟨p, hp, r, hr, hpq.trans hqr⟩

theorem le_of_lt (h : x < y) : x ≤ y := by
  obtain ⟨p, hp, q, hq, hpq⟩ := lt_iff.1 h
  exact le_iff.2 ⟨p, hp, q, hq, hpq.le⟩

theorem not_le_of_lt (h : x < y) : ¬ y ≤ x := by
  intro h'
  obtain ⟨p, hp, q, hq, hpq⟩ := lt_iff.1 h
  obtain ⟨q', hq', p', hp', hqp⟩ := le_iff.1 h'
  obtain rfl : q = q' := Option.some.inj (hq.symm.trans hq')
  obtain rfl : p = p' := Option.some.inj (hp.symm.trans hp')
  exact hpq.not_ge hqp

theorem isNaN_eq_isNone_placeOf (a : UnpackedFloat) : a.isNaN = (placeOf a).isNone := by
  rcases a with (_ | _) | _ | _ | ⟨_ | _, m, e, h⟩ <;> rfl

theorem isNaN_eq_false_iff : x.isNaN = false ↔ ∃ p, x.place? = some p := by
  rw [← Option.isSome_iff_exists, ← Option.isNone_eq_false_iff]
  exact Eq.congr_left (isNaN_eq_isNone_placeOf x.toModel.unpack)

/-- Numbers are comparable. -/
theorem le_iff_not_lt : x ≤ y ↔ x.isNaN = false ∧ y.isNaN = false ∧ ¬ y < x := by
  rw [isNaN_eq_false_iff, isNaN_eq_false_iff]
  constructor
  · intro h
    obtain ⟨p, hp, q, hq, -⟩ := le_iff.1 h
    exact ⟨⟨p, hp⟩, ⟨q, hq⟩, fun above => not_le_of_lt above h⟩
  · rintro ⟨⟨p, hp⟩, ⟨q, hq⟩, h⟩
    exact le_iff.2 ⟨p, hp, q, hq, not_lt.1 fun above => h (lt_iff.2 ⟨q, hq, p, hp, above⟩)⟩

theorem isNaN_of_le (h : x ≤ y) : x.isNaN = false ∧ y.isNaN = false :=
  ⟨(le_iff_not_lt.1 h).1, (le_iff_not_lt.1 h).2.1⟩

theorem le_refl (number : x.isNaN = false) : x ≤ x :=
  le_iff_not_lt.2 ⟨number, number, fun h => not_le_of_lt h (le_of_lt h)⟩

theorem le_trans (h₁ : x ≤ y) (h₂ : y ≤ z) : x ≤ z := by
  obtain ⟨p, hp, q, hq, hpq⟩ := le_iff.1 h₁
  obtain ⟨q', hq', r, hr, hqr⟩ := le_iff.1 h₂
  obtain rfl : q = q' := Option.some.inj (hq.symm.trans hq')
  exact le_iff.2 ⟨p, hp, r, hr, hpq.trans hqr⟩

theorem isNaN_zero : (0 : Float32).isNaN = false := by decide

theorem isNaN_one : (1 : Float32).isNaN = false := by decide

theorem zero_le_one : (0 : Float32) ≤ 1 := by decide

/-- A quantity between zero and one is finite. -/
theorem isFinite_of_mem_unit (low : 0 ≤ x) (high : x ≤ 1) : x.isFinite = true := by
  obtain ⟨z, hz, p, hp, low⟩ := le_iff.1 low
  obtain ⟨p', hp', o, ho, high⟩ := le_iff.1 high
  cases hz
  cases ho
  rw [place?] at hp hp'
  show x.toModel.unpack.isFinite = true
  generalize x.toModel.unpack = u at hp hp' ⊢
  rcases u with (_ | _) | _ | _ | _
  · cases hp
    exact absurd low (by decide)
  · cases hp'
    exact absurd high (by decide)
  · cases hp
  · rfl
  · rfl

/-! ## Numbers moved into a range -/

theorem le_atLeast {lo : Float32} (number : lo.isNaN = false) (x : Float32) : lo ≤ x.atLeast lo := by
  rw [atLeast]
  split
  · next above => exact le_of_lt above
  · exact le_refl number

theorem atLeast_atLeast (x lo : Float32) : (x.atLeast lo).atLeast lo = x.atLeast lo := by
  by_cases above : lo < x
  · have same : x.atLeast lo = x := by rw [atLeast, if_pos above]
    rw [same, same]
  · have least : x.atLeast lo = lo := by rw [atLeast, if_neg above]
    rw [least, atLeast, ite_self]

/-- A number that is moved into a range lies in it. -/
theorem within_mem {lo hi : Float32} (ordered : lo ≤ hi) (number : x.isNaN = false) :
    lo ≤ x.within lo hi ∧ x.within lo hi ≤ hi := by
  obtain ⟨hlo, hhi, inside⟩ := le_iff_not_lt.1 ordered
  rw [within]
  by_cases below : x < lo
  · rw [if_pos below, if_neg inside]
    exact ⟨le_refl hlo, ordered⟩
  · rw [if_neg below]
    by_cases above : hi < x
    · rw [if_pos above]
      exact ⟨ordered, le_refl hhi⟩
    · rw [if_neg above]
      exact ⟨le_iff_not_lt.2 ⟨hlo, number, below⟩, le_iff_not_lt.2 ⟨number, hhi, above⟩⟩

theorem within_of_isNaN (none : x.isNaN = true) (lo hi : Float32) : x.within lo hi = x := by
  have below : ¬ x < lo := fun h => Bool.eq_false_iff.1 (isNaN_of_le (le_of_lt h)).1 none
  have above : ¬ hi < x := fun h => Bool.eq_false_iff.1 (isNaN_of_le (le_of_lt h)).2 none
  rw [within, if_neg below, if_neg above]

theorem within_within {lo hi : Float32} (ordered : lo ≤ hi) (x : Float32) :
    (x.within lo hi).within lo hi = x.within lo hi := by
  obtain ⟨hlo, hhi, inside⟩ := le_iff_not_lt.1 ordered
  have irrefl (y : Float32) : ¬ y < y := fun h => not_le_of_lt h (le_of_lt h)
  by_cases below : x < lo
  · have least : x.within lo hi = lo := by rw [within, if_pos below, if_neg inside]
    rw [least, within, if_neg (irrefl lo), if_neg inside]
  · by_cases above : hi < x
    · have greatest : x.within lo hi = hi := by rw [within, if_neg below, if_pos above]
      rw [greatest, within, if_neg inside, if_neg (irrefl hi)]
    · have same : x.within lo hi = x := by rw [within, if_neg below, if_neg above]
      rw [same, same]

theorem atLeast_one_pos (x : Float32) : 0 < x.atLeast 1 := by
  have one : (0 : Float32) < 1 := by decide
  rw [atLeast]
  split
  · next above => exact lt_trans one above
  · exact one

/-- A number held between zero and a positive bound is positive or a NaN exactly if it was before. -/
theorem within_le_zero_iff {hi : Float32} (pos : 0 < hi) (x : Float32) :
    x.within 0 hi ≤ 0 ↔ x ≤ 0 := by
  have zero : (0 : Float32) ≤ 0 := by decide
  rw [within]
  by_cases below : x < 0
  · have inside : ¬ hi < 0 := fun h => not_le_of_lt pos (le_of_lt h)
    rw [if_pos below, if_neg inside]
    exact iff_of_true zero (le_of_lt below)
  · rw [if_neg below]
    by_cases above : hi < x
    · rw [if_pos above]
      exact iff_of_false (not_le_of_lt pos) (not_le_of_lt (lt_trans pos above))
    · rw [if_neg above]

end Float32

namespace Int32

/-! ## Whole numbers -/

theorem toInt_max (a b : Int32) : (max a b).toInt = max a.toInt b.toInt := by
  show (if a ≤ b then b else a).toInt = _
  split
  · next h => exact (max_eq_right (Int32.le_iff_toInt_le.1 h)).symm
  · next h => exact (max_eq_left (le_of_not_ge fun h' => h (Int32.le_iff_toInt_le.2 h'))).symm

theorem toInt_min (a b : Int32) : (min a b).toInt = min a.toInt b.toInt := by
  show (if a ≤ b then a else b).toInt = _
  split
  · next h => exact (min_eq_left (Int32.le_iff_toInt_le.1 h)).symm
  · next h => exact (min_eq_right (le_of_not_ge fun h' => h (Int32.le_iff_toInt_le.2 h'))).symm

theorem zero_le_max (a : Int32) : 0 ≤ max a 0 := by
  rw [Int32.le_iff_toInt_le, toInt_max]
  exact le_max_right _ _

end Int32
