import Masquerade.Proofs.Single.Endless

/-!
# Arithmetic and the order

Rounded arithmetic keeps the order where its results are numbers: a difference rises with what is taken from
and falls with what is taken away (`sub_mono`), and a product of what is not negative rises with its factors
(`mul_mono`). Held at zero or above, a difference keeps the order even where it is no number, because then it
counts as zero (`atLeast_sub_mono`), and so does a product by a factor of at least one
(`atLeast_mul_mono`). A difference of two distinct numbers is never rounded to zero (`sub_pos`).
-/

namespace Float32

open Float.Model Float.Model.UnpackedFloat

variable {x x' y y' lo hi : Float32}

/-! ## The ends of the line -/

theorem isFinite_iff_point {v : ℚ} (hv : x.point? = some v) : x.isFinite = true ↔ |v| < 2 ^ 128 := by
  refine ⟨fun finite => ?_, isFinite_of_point hv⟩
  have bounded : x.toModel.unpack.isFinite = true := finite
  have stored := stored_unpack x.toModel
  rw [point?] at hv
  cases h : x.toModel.unpack with
  | notANumber | infinity =>
    rw [h] at bounded
    cases bounded
  | zero s =>
    rw [h] at hv
    cases hv
    norm_num
  | finite s m e pos =>
    rw [h] at hv stored
    cases hv
    have inside := stored.1.lt_overflow stored.2
    have value := value_pos pos e
    rw [apply_value, abs_lt]
    cases s <;> simp [Sign.apply] <;> constructor <;> linarith

/-- A number is finite or one of the infinities. -/
theorem endless_cases (number : x.isNaN = false) :
    x.isFinite = true ∨ x.toModel.unpack = .infinity .positive ∨
      x.toModel.unpack = .infinity .negative := by
  have some : x.toModel.unpack.isNaN = false := number
  show x.toModel.unpack.isFinite = true ∨ _
  cases h : x.toModel.unpack with
  | notANumber =>
    rw [h] at some
    cases some
  | zero | finite => exact .inl rfl
  | infinity s =>
    cases s with
    | positive => exact .inr (.inl rfl)
    | negative => exact .inr (.inr rfl)

theorem point?_infinity {s : Sign} (endless : x.toModel.unpack = .infinity s) :
    x.point? = some (((s.apply 1 : ℤ) : ℚ) * 2 ^ 128) := by
  rw [point?, endless, pointOf_infinity]

theorem le_of_top (number : x.isNaN = false) (top : y.toModel.unpack = .infinity .positive) : x ≤ y := by
  obtain ⟨v, hv⟩ := isNaN_eq_false_iff_point.1 number
  refine le_iff_point.2 ⟨v, hv, _, point?_infinity top, ?_⟩
  simpa [Sign.apply] using (stored_unpack _).le_overflow hv

theorem le_of_bottom (bottom : x.toModel.unpack = .infinity .negative) (number : y.isNaN = false) :
    x ≤ y := by
  obtain ⟨w, hw⟩ := isNaN_eq_false_iff_point.1 number
  refine le_iff_point.2 ⟨_, point?_infinity bottom, w, hw, ?_⟩
  simpa [Sign.apply] using (stored_unpack _).neg_overflow_le hw

theorem top_of_le (h : x ≤ y) (top : x.toModel.unpack = .infinity .positive) :
    y.toModel.unpack = .infinity .positive := by
  obtain ⟨v, hv, w, hw, vw⟩ := le_iff_point.1 h
  obtain rfl := Option.some.inj (hv.symm.trans (point?_infinity top))
  have high : 2 ^ 128 ≤ w := by simpa [Sign.apply] using vw
  rcases endless_cases (isNaN_of_le h).2 with finite | top | bottom
  · exact absurd ((isFinite_iff_point hw).1 finite) (not_lt.2 (high.trans (le_abs_self w)))
  · exact top
  · rw [point?_infinity bottom] at hw
    cases hw
    norm_num [Sign.apply] at high

theorem bottom_of_le (h : x ≤ y) (bottom : y.toModel.unpack = .infinity .negative) :
    x.toModel.unpack = .infinity .negative := by
  obtain ⟨v, hv, w, hw, vw⟩ := le_iff_point.1 h
  obtain rfl := Option.some.inj (hw.symm.trans (point?_infinity bottom))
  have low : v ≤ -2 ^ 128 := by simpa [Sign.apply] using vw
  rcases endless_cases (isNaN_of_le h).1 with finite | top | bottom
  · exact absurd ((isFinite_iff_point hv).1 finite) (not_lt.2 (by linarith [neg_le_abs v]))
  · rw [point?_infinity top] at hv
    cases hv
    norm_num [Sign.apply] at low
  · exact bottom

/-- Two numbers in their order are finite, if the lower is not the bottom and the upper not the top. -/
theorem isFinite_of_inside (h : x ≤ y) (above : x.toModel.unpack ≠ .infinity .negative)
    (below : y.toModel.unpack ≠ .infinity .positive) : x.isFinite = true ∧ y.isFinite = true := by
  obtain ⟨nx, ny⟩ := isNaN_of_le h
  constructor
  · rcases endless_cases nx with finite | top | bottom
    · exact finite
    · exact absurd (top_of_le h top) below
    · exact absurd bottom above
  · rcases endless_cases ny with finite | top | bottom
    · exact finite
    · exact absurd top below
    · exact absurd (bottom_of_le h bottom) above

/-! ## Bounds -/

theorem le_atLeast_self (number : x.isNaN = false) (bound : lo.isNaN = false) : x ≤ x.atLeast lo := by
  rw [atLeast]
  split
  · exact le_refl number
  · next above => exact le_iff_not_lt.2 ⟨number, bound, above⟩

theorem atLeast_mono (bound : lo.isNaN = false) (h : x ≤ y) : x.atLeast lo ≤ y.atLeast lo := by
  by_cases above : lo < x
  · have same : x.atLeast lo = x := by rw [atLeast, if_pos above]
    rw [same]
    exact le_trans h (le_atLeast_self (isNaN_of_le h).2 bound)
  · have least : x.atLeast lo = lo := by rw [atLeast, if_neg above]
    rw [least]
    exact le_atLeast bound y

/-- What is no number counts as the bound. -/
theorem atLeast_of_isNaN (none : x.isNaN = true) (lo : Float32) : x.atLeast lo = lo := by
  have unrelated : ¬ lo < x := fun h => Bool.eq_false_iff.1 (isNaN_of_le (le_of_lt h)).2 none
  rw [atLeast, if_neg unrelated]

theorem atLeast_of_le (h : x ≤ lo) : x.atLeast lo = lo := by
  rw [atLeast, if_neg (le_iff_not_lt.1 h).2.2]

theorem within_mono (ordered : lo ≤ hi) (h : x ≤ y) : x.within lo hi ≤ y.within lo hi := by
  obtain ⟨nx, ny⟩ := isNaN_of_le h
  obtain ⟨low, -⟩ := within_mem ordered ny
  obtain ⟨-, high⟩ := within_mem ordered nx
  obtain ⟨hlo, hhi, inside⟩ := le_iff_not_lt.1 ordered
  by_cases below : x < lo
  · have least : x.within lo hi = lo := by rw [within, if_pos below, if_neg inside]
    rw [least]
    exact low
  · have reached : lo ≤ y := le_trans (le_iff_not_lt.2 ⟨hlo, nx, below⟩) h
    by_cases above : hi < y
    · have greatest : y.within lo hi = hi := by
        rw [within, if_neg (le_iff_not_lt.1 reached).2.2, if_pos above]
      rw [greatest]
      exact high
    · have under : x ≤ hi := le_trans h (le_iff_not_lt.2 ⟨ny, hhi, above⟩)
      have same : x.within lo hi = x := by
        rw [within, if_neg below, if_neg (le_iff_not_lt.1 under).2.2]
      have same' : y.within lo hi = y := by
        rw [within, if_neg (le_iff_not_lt.1 reached).2.2, if_neg above]
      rwa [same, same']

/-! ## Differences -/

theorem sub_infinity_left {s : Sign} {b : UnpackedFloat}
    (number : (UnpackedFloat.sub .binary32 (.infinity s) b).isNaN = false) :
    UnpackedFloat.sub .binary32 (.infinity s) b = .infinity s := by
  rcases b with (_ | _) | _ | _ | _ <;> cases s <;> first | rfl | cases number

theorem sub_infinity_right {s : Sign} {a : UnpackedFloat}
    (number : (UnpackedFloat.sub .binary32 a (.infinity s)).isNaN = false) :
    UnpackedFloat.sub .binary32 a (.infinity s) = .infinity (-s) := by
  rcases a with (_ | _) | _ | _ | _ <;> cases s <;> first | rfl | cases number

/-- A difference from an infinity is that infinity, if it is a number. -/
theorem unpack_sub_left {s : Sign} (endless : x.toModel.unpack = .infinity s)
    (number : (x - y).isNaN = false) : (x - y).toModel.unpack = .infinity s := by
  have some : (UnpackedFloat.sub .binary32 x.toModel.unpack y.toModel.unpack).isNaN = false :=
    (isNaN_unpack_pack _).symm.trans number
  show (Model.pack (UnpackedFloat.sub .binary32 x.toModel.unpack y.toModel.unpack)).unpack = _
  rw [endless] at some ⊢
  rw [sub_infinity_left some, Stored.unpack_pack (a := .infinity s) trivial]

/-- A difference by an infinity is the opposite one, if it is a number. -/
theorem unpack_sub_right {s : Sign} (endless : y.toModel.unpack = .infinity s)
    (number : (x - y).isNaN = false) : (x - y).toModel.unpack = .infinity (-s) := by
  have some : (UnpackedFloat.sub .binary32 x.toModel.unpack y.toModel.unpack).isNaN = false :=
    (isNaN_unpack_pack _).symm.trans number
  show (Model.pack (UnpackedFloat.sub .binary32 x.toModel.unpack y.toModel.unpack)).unpack = _
  rw [endless] at some ⊢
  rw [sub_infinity_right some, Stored.unpack_pack (a := .infinity (-s)) trivial]

/-- Of numbers, only an infinity and itself have a difference that is none. -/
theorem isNaN_sub_cases (nx : x.isNaN = false) (ny : y.isNaN = false) (none : (x - y).isNaN = true) :
    ∃ s, x.toModel.unpack = .infinity s ∧ y.toModel.unpack = .infinity s := by
  have difference {a b : UnpackedFloat} (na : a.isNaN = false) (endless : b.isFinite = false)
      (nb : b.isNaN = false) (none : (UnpackedFloat.sub .binary32 a b).isNaN = true) :
      ∃ s, a = .infinity s ∧ b = .infinity s := by
    cases b with
    | notANumber => cases nb
    | zero | finite => cases endless
    | infinity t =>
      cases a with
      | notANumber => cases na
      | zero | finite => cases none
      | infinity s => cases s <;> cases t <;> first | exact ⟨_, rfl, rfl⟩ | cases none
  cases fy : y.isFinite with
  | true =>
    rw [isNaN_sub_finite nx fy] at none
    cases none
  | false => exact difference nx fy ny ((isNaN_unpack_pack _).symm.trans none)

/-- A difference rises with what is taken from, and falls with what is taken away. -/
theorem sub_mono (hx : x ≤ x') (hy : y' ≤ y) (number : (x - y).isNaN = false)
    (number' : (x' - y').isNaN = false) : x - y ≤ x' - y' := by
  obtain ⟨nx, nx'⟩ := isNaN_of_le hx
  obtain ⟨ny', ny⟩ := isNaN_of_le hy
  -- an infinity on one side decides the difference
  by_cases bottom : x.toModel.unpack = .infinity .negative
  · exact le_of_bottom (unpack_sub_left bottom number) number'
  by_cases taken : y.toModel.unpack = .infinity .positive
  · exact le_of_bottom (unpack_sub_right taken number) number'
  by_cases top : x'.toModel.unpack = .infinity .positive
  · exact le_of_top number (unpack_sub_left top number')
  by_cases given : y'.toModel.unpack = .infinity .negative
  · exact le_of_top number (unpack_sub_right given number')
  obtain ⟨fx, fx'⟩ := isFinite_of_inside hx bottom top
  obtain ⟨fy', fy⟩ := isFinite_of_inside hy given taken
  obtain ⟨v, hv, v', hv', vv⟩ := le_iff_point.1 hx
  obtain ⟨w', hw', w, hw, ww⟩ := le_iff_point.1 hy
  have difference := (stored_unpack _).point_sub (stored_unpack _) fx fy hv hw
  have difference' := (stored_unpack _).point_sub (stored_unpack _) fx' fy' hv' hw'
  exact le_iff_point.2 ⟨_, difference, _, difference', nearest_mono (by linarith)⟩

/-- Held at zero or above, a difference that is no number counts as zero. -/
theorem atLeast_sub_mono (hx : x ≤ x') (hy : y' ≤ y) : (x - y).atLeast 0 ≤ (x' - y').atLeast 0 := by
  obtain ⟨nx, nx'⟩ := isNaN_of_le hx
  obtain ⟨ny', ny⟩ := isNaN_of_le hy
  cases none : (x - y).isNaN with
  | true =>
    rw [atLeast_of_isNaN none]
    exact le_atLeast isNaN_zero _
  | false =>
    cases none' : (x' - y').isNaN with
    | false => exact atLeast_mono isNaN_zero (sub_mono hx hy none none')
    | true =>
      -- the other difference is then at the bottom
      have bottom : (x - y).toModel.unpack = .infinity .negative := by
        obtain ⟨s, hx', hy'⟩ := isNaN_sub_cases nx' ny' none'
        cases s with
        | positive => exact unpack_sub_right (top_of_le hy hy') none
        | negative => exact unpack_sub_left (bottom_of_le hx hx') none
      rw [atLeast_of_isNaN none', atLeast_of_le (le_of_bottom bottom isNaN_zero)]
      exact le_refl isNaN_zero

/-- Taking away what is not negative leaves nothing greater. -/
theorem sub_le_of_nonneg (number : x.isNaN = false) (nonneg : 0 ≤ y) (left : (x - y).isNaN = false) :
    x - y ≤ x := by
  have same : (x - 0).isNaN = false := isNaN_sub_finite number rfl
  have zero : x - 0 ≤ x := by
    rcases endless_cases number with finite | top | bottom
    · obtain ⟨v, hv⟩ := isNaN_eq_false_iff_point.1 number
      have difference := (stored_unpack _).point_sub (stored_unpack (0 : Float32).toModel) finite rfl hv
        (w := 0) rfl
      refine le_iff_point.2 ⟨_, difference, v, hv, ?_⟩
      rw [sub_zero, (stored_unpack _).nearest_eq finite hv]
    · exact le_of_top same top
    · exact le_of_bottom (unpack_sub_left bottom same) number
  exact le_trans (sub_mono (le_refl number) nonneg left same) zero

theorem le_zero_iff_point {v : ℚ} (hv : x.point? = some v) : x ≤ 0 ↔ v ≤ 0 := by
  rw [le_iff_point]
  constructor
  · rintro ⟨v', hv', w, hw, h⟩
    cases hw
    rwa [Option.some.inj (hv.symm.trans hv')]
  · exact fun h => ⟨v, hv, 0, rfl, h⟩

/-- Taking away at least as much leaves nothing above zero. -/
theorem sub_le_zero (fx : x.isFinite = true) (fy : y.isFinite = true) (h : x ≤ y) : x - y ≤ 0 := by
  obtain ⟨v, hv, w, hw, vw⟩ := le_iff_point.1 h
  have difference := (stored_unpack _).point_sub (stored_unpack _) fx fy hv hw
  refine (le_zero_iff_point difference).2 ?_
  calc nearest (v - w) ≤ nearest 0 := nearest_mono (by linarith)
    _ = 0 := nearest_zero

/-- Finite numbers stand on the finest grid. -/
theorem exists_multiple {v : ℚ} (hv : x.point? = some v) (finite : x.isFinite = true) :
    ∃ k : ℤ, v = k * 2 ^ (-149 : ℤ) := by
  have bounded : x.toModel.unpack.isFinite = true := finite
  have stored := stored_unpack x.toModel
  rw [point?] at hv
  cases h : x.toModel.unpack with
  | notANumber | infinity =>
    rw [h] at bounded
    cases bounded
  | zero s =>
    rw [h] at hv
    cases hv
    exact ⟨0, by simp⟩
  | finite s m e pos =>
    rw [h] at hv stored
    cases hv
    refine ⟨s.apply (m <<< (e - -149).toNat), ?_⟩
    rw [apply_value, apply_value, value_aligned m stored.1.least]

/-- A difference of two distinct numbers is not rounded to zero. -/
theorem sub_pos (fx : x.isFinite = true) (fy : y.isFinite = true) (h : y < x) : 0 < x - y := by
  obtain ⟨w, hw, v, hv, wv⟩ := lt_iff_point.1 h
  obtain ⟨j, rfl⟩ := exists_multiple hw fy
  obtain ⟨k, rfl⟩ := exists_multiple hv fx
  have grid : (0 : ℚ) < 2 ^ (-149 : ℤ) := two_zpow_pos _
  have step : j < k := by exact_mod_cast lt_of_mul_lt_mul_right wv grid.le
  have least : nearest (2 ^ (-149 : ℤ)) = 2 ^ (-149 : ℤ) := by
    have canonical : Canonical 1 (-149) := ⟨by norm_num, le_rfl, .inr rfl⟩
    simpa using canonical.nearest_eq (by norm_num) one_pos
  have difference := (stored_unpack _).point_sub (stored_unpack _) fx fy hv hw
  refine lt_iff_point.2 ⟨0, rfl, _, difference, ?_⟩
  calc (0 : ℚ) < 2 ^ (-149 : ℤ) := grid
    _ = nearest (2 ^ (-149 : ℤ)) := least.symm
    _ ≤ nearest (k * 2 ^ (-149 : ℤ) - j * 2 ^ (-149 : ℤ)) := nearest_mono ?_
  have apart : (1 : ℚ) ≤ k - j := by exact_mod_cast (by omega : (1 : ℤ) ≤ k - j)
  rw [← sub_mul]
  exact le_mul_of_one_le_left grid.le apart

/-! ## Products of what is not negative -/

theorem mul_infinity_comm (b : UnpackedFloat) :
    UnpackedFloat.mul .binary32 b (.infinity .positive) =
      UnpackedFloat.mul .binary32 (.infinity .positive) b := by
  rcases b with (_ | _) | _ | _ | ⟨_ | _, m, e, pos⟩ <;> rfl

/-- Infinity times what is not negative is infinity, or no number if that is zero. -/
theorem mul_infinity_cases {b : UnpackedFloat} {w : ℚ} (hw : pointOf b = some w) (nonneg : 0 ≤ w) :
    0 < w ∧ UnpackedFloat.mul .binary32 (.infinity .positive) b = .infinity .positive ∨
      w ≤ 0 ∧ UnpackedFloat.mul .binary32 (.infinity .positive) b = .notANumber := by
  cases b with
  | notANumber => cases hw
  | zero t =>
    cases hw
    exact .inr ⟨le_rfl, rfl⟩
  | infinity t =>
    obtain rfl : t = .positive := by
      cases eq_infinity_of_nonneg rfl hw nonneg
      rfl
    cases hw
    exact .inl ⟨by norm_num [Sign.apply], rfl⟩
  | finite t n f pos =>
    cases hw
    have value := value_pos pos f
    rw [apply_value] at nonneg ⊢
    cases t with
    | positive => exact .inl ⟨by simpa [Sign.apply] using value, rfl⟩
    | negative =>
      simp [Sign.apply] at nonneg
      linarith

/-- A product of what is not negative, one of it infinite, is infinity, or no number if the other is zero. -/
theorem unpack_mul_cases (hx : 0 ≤ x) (hy : 0 ≤ y) (endless : x.isFinite = false ∨ y.isFinite = false) :
    (x * y).toModel.unpack = .infinity .positive ∧ ¬ (x ≤ 0 ∨ y ≤ 0) ∨
      (x * y).isNaN = true ∧ (x ≤ 0 ∨ y ≤ 0) := by
  obtain ⟨v, hv, vNonneg⟩ := zero_le_iff_point.1 hx
  obtain ⟨w, hw, wNonneg⟩ := zero_le_iff_point.1 hy
  rw [le_zero_iff_point hv, le_zero_iff_point hw, not_or, not_le, not_le]
  have infinite (product : UnpackedFloat.mul .binary32 x.toModel.unpack y.toModel.unpack =
      .infinity .positive) : (x * y).toModel.unpack = .infinity .positive := by
    show (Model.pack (UnpackedFloat.mul .binary32 x.toModel.unpack y.toModel.unpack)).unpack = _
    rw [product, Stored.unpack_pack (a := .infinity .positive) trivial]
  have none (product : UnpackedFloat.mul .binary32 x.toModel.unpack y.toModel.unpack = .notANumber) :
      (x * y).isNaN = true := by
    refine (isNaN_unpack_pack _).trans ?_
    rw [product]
    rfl
  have far {z : Float32} {u : ℚ} (hu : z.point? = some u) (top : z.toModel.unpack = .infinity .positive) :
      0 < u := by
    obtain rfl := Option.some.inj (hu.symm.trans (point?_infinity top))
    norm_num [Sign.apply]
  rcases endless with endless | endless
  · have top := eq_infinity_of_nonneg endless hv vNonneg
    rw [top] at infinite none
    obtain ⟨pos, product⟩ | ⟨zero, product⟩ := mul_infinity_cases hw wNonneg
    · exact .inl ⟨infinite product, far hv top, pos⟩
    · exact .inr ⟨none product, .inr zero⟩
  · have top := eq_infinity_of_nonneg endless hw wNonneg
    rw [top, mul_infinity_comm] at infinite none
    obtain ⟨pos, product⟩ | ⟨zero, product⟩ := mul_infinity_cases hv vNonneg
    · exact .inl ⟨infinite product, pos, far hw top⟩
    · exact .inr ⟨none product, .inl zero⟩

theorem finite_or_endless (x y : Float32) :
    x.isFinite = true ∧ y.isFinite = true ∨ x.isFinite = false ∨ y.isFinite = false := by
  cases x.isFinite <;> cases y.isFinite <;> simp

/-- Of what is not negative, only infinity and zero have a product that is no number. -/
theorem isNaN_mul_cases (hx : 0 ≤ x) (hy : 0 ≤ y) (none : (x * y).isNaN = true) :
    (x.isFinite = false ∨ y.isFinite = false) ∧ (x ≤ 0 ∨ y ≤ 0) := by
  rcases finite_or_endless x y with ⟨fx, fy⟩ | endless
  · rw [isNaN_mul fx fy] at none
    cases none
  · refine ⟨endless, ?_⟩
    rcases unpack_mul_cases hx hy endless with ⟨top, -⟩ | ⟨-, zero⟩
    · rw [isNaN_eq_false_iff_point.2 ⟨_, point?_infinity top⟩] at none
      cases none
    · exact zero

/-- A product rises with its factors. -/
theorem mul_mono (hx : 0 ≤ x) (hy : 0 ≤ y) (xx : x ≤ x') (yy : y ≤ y') (number : (x * y).isNaN = false)
    (number' : (x' * y').isNaN = false) : x * y ≤ x' * y' := by
  rcases finite_or_endless x' y' with ⟨fx', fy'⟩ | endless
  · have fx := isFinite_of_le hx xx fx'
    have fy := isFinite_of_le hy yy fy'
    obtain ⟨v, hv, vNonneg⟩ := zero_le_iff_point.1 hx
    obtain ⟨w, hw, wNonneg⟩ := zero_le_iff_point.1 hy
    obtain ⟨v₁, hv₁, v', hv', vv⟩ := le_iff_point.1 xx
    obtain ⟨w₁, hw₁, w', hw', ww⟩ := le_iff_point.1 yy
    obtain rfl : v = v₁ := Option.some.inj (hv.symm.trans hv₁)
    obtain rfl : w = w₁ := Option.some.inj (hw.symm.trans hw₁)
    have product := (stored_unpack _).point_mul (stored_unpack _) fx fy hv hw
    have product' := (stored_unpack _).point_mul (stored_unpack _) fx' fy' hv' hw'
    refine le_iff_point.2 ⟨_, product, _, product', nearest_mono ?_⟩
    exact mul_le_mul vv ww wNonneg (vNonneg.trans vv)
  · rcases unpack_mul_cases (le_trans hx xx) (le_trans hy yy) endless with ⟨top, -⟩ | ⟨none, -⟩
    · exact le_of_top number top
    · rw [none] at number'
      cases number'

theorem mul_le_zero (hx : 0 ≤ x) (hy : 0 ≤ y) (zero : x ≤ 0 ∨ y ≤ 0) (number : (x * y).isNaN = false) :
    x * y ≤ 0 := by
  rcases finite_or_endless x y with ⟨fx, fy⟩ | endless
  · obtain ⟨v, hv, vNonneg⟩ := zero_le_iff_point.1 hx
    obtain ⟨w, hw, wNonneg⟩ := zero_le_iff_point.1 hy
    rw [le_zero_iff_point hv, le_zero_iff_point hw] at zero
    have product := (stored_unpack _).point_mul (stored_unpack _) fx fy hv hw
    have nothing : v * w = 0 :=
      mul_eq_zero.2 (zero.imp (le_antisymm · vNonneg) (le_antisymm · wNonneg))
    rw [nothing, nearest_zero] at product
    exact (le_zero_iff_point product).2 le_rfl
  · rcases unpack_mul_cases hx hy endless with ⟨-, nonzero⟩ | ⟨none, -⟩
    · exact absurd zero nonzero
    · rw [none] at number
      cases number

/-- Held at zero or above, a product with zero is zero. -/
theorem atLeast_mul_zero (hx : 0 ≤ x) (hy : 0 ≤ y) (zero : x ≤ 0 ∨ y ≤ 0) : (x * y).atLeast 0 = 0 := by
  cases none : (x * y).isNaN with
  | true => exact atLeast_of_isNaN none 0
  | false => exact atLeast_of_le (mul_le_zero hx hy zero none)

theorem point?_one : (1 : Float32).point? = some 1 := by
  have unpacked : (1 : Float32).toModel.unpack = .finite .positive (2 ^ 23) (-23) (by norm_num) := rfl
  rw [point?, unpacked, pointOf_finite]
  norm_num [Sign.apply]

theorem not_le_zero_of_one_le (one : 1 ≤ x) : ¬ x ≤ 0 := fun zero =>
  absurd (le_trans one zero) (by decide)

/-- Held at zero or above, a product by a factor of at least one keeps the order even where it is no
number. -/
theorem atLeast_mul_mono (hx : 0 ≤ x) (one : 1 ≤ y) (xx : x ≤ x') (yy : y ≤ y') :
    (x * y).atLeast 0 ≤ (x' * y').atLeast 0 := by
  have hy : 0 ≤ y := le_trans zero_le_one one
  cases none : (x * y).isNaN with
  | true =>
    rw [atLeast_of_isNaN none]
    exact le_atLeast isNaN_zero _
  | false =>
    cases none' : (x' * y').isNaN with
    | false => exact atLeast_mono isNaN_zero (mul_mono hx hy xx yy none none')
    | true =>
      -- the greater first factor is zero, and so is the smaller one
      obtain ⟨-, zero⟩ := isNaN_mul_cases (le_trans hx xx) (le_trans hy yy) none'
      have zero' := zero.resolve_right (not_le_zero_of_one_le (le_trans one yy))
      rw [atLeast_mul_zero hx hy (.inl (le_trans xx zero'))]
      exact le_atLeast isNaN_zero _

/-- A factor of at least one makes nothing smaller. -/
theorem le_atLeast_mul (hx : 0 ≤ x) (one : 1 ≤ y) : x ≤ (x * y).atLeast 0 := by
  have hy : 0 ≤ y := le_trans zero_le_one one
  cases none : (x * y).isNaN with
  | true =>
    obtain ⟨-, zero⟩ := isNaN_mul_cases hx hy none
    exact le_trans (zero.resolve_right (not_le_zero_of_one_le one)) (le_atLeast isNaN_zero _)
  | false =>
    refine le_trans ?_ (le_atLeast_self none isNaN_zero)
    rcases finite_or_endless x y with ⟨fx, fy⟩ | endless
    · obtain ⟨v, hv, nonneg⟩ := zero_le_iff_point.1 hx
      obtain ⟨o, ho, w, hw, above⟩ := le_iff_point.1 one
      obtain rfl : 1 = o := Option.some.inj (point?_one.symm.trans ho)
      have product := (stored_unpack _).point_mul (stored_unpack _) fx fy hv hw
      refine le_iff_point.2 ⟨v, hv, _, product, ?_⟩
      calc v = nearest v := ((stored_unpack _).nearest_eq fx hv).symm
        _ ≤ nearest (v * w) := nearest_mono (le_mul_of_one_le_right nonneg above)
    · rcases unpack_mul_cases hx hy endless with ⟨top, -⟩ | ⟨lost, -⟩
      · exact le_of_top (isNaN_of_le hx).2 top
      · rw [lost] at none
        cases none

end Float32
