import Masquerade.Proofs.Single.Alike

/-!
# Whole numbers as quantities

A whole number becomes the quantity nearest to it, and a quantity that stands at a whole number becomes
that number again (`roundToInt32_of_point`). On the way there and back a whole number of 32 bits stays what
it is exactly if it has at most 24 binary digits with zeros after them, or is the largest of all
(`Int32.roundToInt32_toSingle_eq_iff`).
-/

namespace Float32

open Float.Model Float.Model.UnpackedFloat

/-! ## Rounding whole numbers -/

/-- A whole number with at most 24 binary digits, but for zeros after them. -/
def FitsSingle (i : ℤ) : Prop := ∃ m k : ℕ, m < 2 ^ 24 ∧ i.natAbs = m * 2 ^ k

theorem rounded_of_multiple {q : ℚ} (n : ℕ) (grid : q = n * 2 ^ gridExponent q) : rounded q = q :=
  le_antisymm (rounded_le_of_le n grid le_rfl) (le_rounded_of_le n grid le_rfl)

/-- A step of a coarse grid in steps of a finer one. -/
theorem two_zpow_of_le {s t : ℤ} (h : s ≤ t) :
    (2 : ℚ) ^ t = ((2 ^ (t - s).toNat : ℕ) : ℚ) * 2 ^ s := by
  rw [Nat.cast_pow, Nat.cast_ofNat, ← zpow_natCast, Int.toNat_of_nonneg (Int.sub_nonneg.2 h),
    ← zpow_add₀ (by norm_num), sub_add_cancel]

theorem lt_of_gridExponent_le {n : ℕ} {k : ℕ} (fine : gridExponent n ≤ k) : n < 2 ^ 24 * 2 ^ k := by
  have below := (lt_grid_top n).trans_le (two_zpow_le (show _ ≤ (k : ℤ) + 24 by omega))
  rw [two_zpow_add_ofNat _ 24, zpow_natCast] at below
  exact_mod_cast below

theorem gridExponent_le_of_lt {n k : ℕ} (pos : 0 < n) (below : n < 2 ^ 24 * 2 ^ k) :
    gridExponent n ≤ k := by
  by_contra coarser
  have bottom := grid_bottom_le (q := n) (by exact_mod_cast pos) (by omega)
  have above := (two_zpow_le (show (k : ℤ) + 24 ≤ gridExponent n + 23 by omega)).trans bottom
  rw [two_zpow_add_ofNat _ 24, zpow_natCast] at above
  exact absurd below (not_lt.2 (by exact_mod_cast above))

/-- The digits that fit stand on the grid, and so does nothing else. -/
theorem rounded_natCast_eq_iff (n : ℕ) : rounded n = n ↔ FitsSingle n := by
  rw [FitsSingle, Int.natAbs_natCast]
  constructor
  · intro same
    rcases le_or_gt (gridExponent n) 0 with fine | coarse
    · exact ⟨n, 0, by simpa using lt_of_gridExponent_le (k := 0) fine, by simp⟩
    · obtain ⟨k, hk⟩ := Int.eq_ofNat_of_zero_le coarse.le
      have below := lt_of_gridExponent_le hk.le
      rw [rounded, hk, zpow_natCast] at same
      have unit : (0 : ℚ) < 2 ^ k := by positivity
      have nonneg : 0 ≤ nearestEven (n / 2 ^ k) := by
        have product : (0 : ℚ) ≤ nearestEven (n / 2 ^ k) * 2 ^ k := same.symm.le.trans' n.cast_nonneg
        exact_mod_cast nonneg_of_mul_nonneg_left product unit
      obtain ⟨m, hm⟩ := Int.eq_ofNat_of_zero_le nonneg
      rw [hm, Int.cast_natCast] at same
      have digits : n = m * 2 ^ k := by exact_mod_cast same.symm
      rw [digits] at below
      exact ⟨m, k, lt_of_mul_lt_mul_right below (Nat.zero_le _), digits⟩
  · rintro ⟨m, k, short, rfl⟩
    rcases m.eq_zero_or_pos with rfl | pos
    · rw [Nat.zero_mul, Nat.cast_zero, rounded_zero]
    have fine := gridExponent_le_of_lt (n := m * 2 ^ k) (by positivity)
      (Nat.mul_lt_mul_of_pos_right short (by positivity))
    refine rounded_of_multiple (m * 2 ^ (k - gridExponent (m * 2 ^ k : ℕ)).toNat) ?_
    generalize gridExponent (m * 2 ^ k : ℕ) = g at fine ⊢
    rw [Nat.cast_mul m, Nat.cast_mul m, mul_assoc, ← two_zpow_of_le fine, zpow_natCast, Nat.cast_pow]
    rfl

/-- A whole number is rounded to a whole number. -/
theorem exists_rounded_natCast (n : ℕ) : ∃ k : ℤ, rounded n = k := by
  rcases le_total (gridExponent n) 0 with fine | coarse
  · have fits : FitsSingle n := ⟨n, 0, by simpa using lt_of_gridExponent_le (k := 0) fine, by simp⟩
    exact ⟨n, (rounded_natCast_eq_iff n).2 fits⟩
  · refine ⟨nearestEven (n / 2 ^ gridExponent n) * (2 ^ (gridExponent n).toNat : ℕ), ?_⟩
    have unit := two_zpow_of_le coarse
    rw [sub_zero, zpow_zero, mul_one] at unit
    rw [rounded]
    push_cast
    rw [unit]
    push_cast
    rfl

theorem nearest_neg (q : ℚ) : nearest (-q) = -nearest q := by
  rcases lt_trichotomy q 0 with neg | rfl | pos
  · rw [nearest, nearest, if_pos (by linarith), if_neg neg.not_ge, neg_neg]
  · rw [neg_zero, nearest_zero, neg_zero]
  · rw [nearest, nearest, if_neg (by linarith), if_pos pos.le, neg_neg]

theorem exists_nearest_natCast {n : ℕ} (small : n ≤ 2 ^ 31) :
    ∃ k : ℤ, nearest n = k ∧ |k| ≤ 2 ^ 31 ∧ (k = n ↔ FitsSingle n) := by
  obtain ⟨k, hk⟩ := exists_rounded_natCast n
  have upper : nearest n ≤ nearest (2 ^ 31) := nearest_mono (by exact_mod_cast small)
  rw [nearest_two_pow (by norm_num), nearest, if_pos n.cast_nonneg, hk] at upper
  have inside : (k : ℚ) ≤ 2 ^ 31 := (min_le_iff.1 upper).resolve_right (by norm_num)
  have nonneg : (0 : ℚ) ≤ k := hk ▸ rounded_nonneg n.cast_nonneg
  refine ⟨k, ?_, ?_, ?_⟩
  · rw [nearest, if_pos n.cast_nonneg, hk, min_eq_left (inside.trans (by norm_num))]
  · rw [abs_of_nonneg (by exact_mod_cast nonneg)]
    exact_mod_cast inside
  · rw [← rounded_natCast_eq_iff, hk]
    norm_cast

/-- The quantity nearest to a whole number of 32 bits stands at a whole number, and this is the same whole
number exactly if its digits fit. -/
theorem exists_nearest_intCast {i : ℤ} (small : i.natAbs ≤ 2 ^ 31) :
    ∃ k : ℤ, nearest i = k ∧ |k| ≤ 2 ^ 31 ∧ (k = i ↔ FitsSingle i) := by
  obtain ⟨k, hk, bound, same⟩ := exists_nearest_natCast small
  have sign : FitsSingle (-i.natAbs) ↔ FitsSingle i.natAbs := by
    rw [FitsSingle, FitsSingle, Int.natAbs_neg]
  rcases i.natAbs_eq with pos | neg
  · refine ⟨k, ?_, bound, by rwa [pos]⟩
    rw [pos, Int.cast_natCast, hk]
  · refine ⟨-k, ?_, by rwa [abs_neg], ?_⟩
    · rw [neg, Int.cast_neg, nearest_neg, Int.cast_natCast, hk, Int.cast_neg]
    · rw [neg, neg_inj, sign, same]

/-! ## Quantities at whole numbers -/

/-- Whole numbers have nothing to be rounded. -/
theorem roundScaled_eq {m k : ℕ} {e : ℤ} (h : (m : ℚ) * 2 ^ e = k) : roundScaled m e = k := by
  have shift : (2 : ℚ) ^ e.toNat = 2 ^ e * 2 ^ (-e).toNat := by
    rw [← zpow_natCast, ← zpow_natCast, ← zpow_add₀ (by norm_num)]
    congr 1
    omega
  have aligned : m * 2 ^ e.toNat = k * 2 ^ (-e).toNat := by
    have : (m : ℚ) * 2 ^ e.toNat = k * 2 ^ (-e).toNat := by rw [shift, ← mul_assoc, h]
    exact_mod_cast this
  rw [roundScaled, Nat.shiftLeft_eq, Nat.shiftLeft_eq, one_mul, aligned]
  have unit : 0 < 2 ^ (-e).toNat := by positivity
  generalize 2 ^ (-e).toNat = u at unit
  have halves : 2 * (k * u) + u = 2 * u * k + u := by ring
  rw [halves, Nat.mul_add_div (by omega), Nat.div_eq_of_lt (by omega), add_zero]

theorem roundToInt32_of_point {x : Float32} {k : ℤ} (hx : x.point? = some (k : ℚ))
    (finite : x.isFinite = true) : x.roundToInt32 = Int32.ofIntClamp k := by
  have bounded : x.toModel.unpack.isFinite = true := finite
  rw [point?] at hx
  rw [roundToInt32]
  cases h : x.toModel.unpack with
  | notANumber | infinity s =>
    rw [h] at bounded
    cases bounded
  | zero s =>
    rw [h, pointOf_zero, Option.some.injEq] at hx
    obtain rfl : k = 0 := by exact_mod_cast hx.symm
    rfl
  | finite s m e pos =>
    rw [h, pointOf_finite, Option.some.injEq, apply_value] at hx
    have value := value_pos pos e
    -- the size of the number is a whole one, whatever its sign
    have size : (m : ℚ) * 2 ^ e = k.natAbs := by
      rw [Nat.cast_natAbs, Int.cast_abs, ← hx]
      cases s <;> simp [Sign.apply, abs_of_pos value]
    have rounds := roundScaled_eq size
    have sign : (k : ℚ) < 0 ↔ s = .negative := by
      rw [← hx]
      cases s <;> simp [Sign.apply, value.le, value]
    cases s with
    | positive =>
      have : ¬ k < 0 := fun neg => by simpa using sign.1 (by exact_mod_cast neg)
      show Int32.ofIntClamp (roundScaled m e) = _
      rw [rounds]
      congr 1
      omega
    | negative =>
      have : k < 0 := by exact_mod_cast sign.2 rfl
      show Int32.ofIntClamp (-(roundScaled m e : ℤ)) = _
      rw [rounds]
      congr 1
      omega

theorem Alike.roundToInt32_eq {x y : Float32} (h : x.Alike y) : x.roundToInt32 = y.roundToInt32 := by
  rw [roundToInt32, roundToInt32]
  rcases h.unpack_cases with same | ⟨s, t, hx, hy⟩
  · rw [same]
  · rw [hx, hy]

end Float32

namespace Int32

/-- A whole number made a quantity and a whole number again. -/
theorem exists_roundToInt32_toSingle (a : Int32) :
    ∃ k : ℤ, |k| ≤ 2 ^ 31 ∧ a.toSingle.roundToInt32 = ofIntClamp k ∧
      (k = a.toInt ↔ Float32.FitsSingle a.toInt) := by
  have low : -2 ^ 31 ≤ a.toInt := a.le_toInt
  have high : a.toInt < 2 ^ 31 := a.toInt_lt
  obtain ⟨k, hk, bound, same⟩ := Float32.exists_nearest_intCast (i := a.toInt) (by omega)
  have point : a.toSingle.point? = some (k : ℚ) := hk ▸ Float32.point?_ofWhole a.toInt
  have inside : |(k : ℚ)| ≤ 2 ^ 31 := by exact_mod_cast bound
  exact ⟨k, bound, Float32.roundToInt32_of_point point
    (Float32.isFinite_of_point point (inside.trans_lt (by norm_num))), same⟩

/-- A whole number becomes itself again if its digits fit. The largest one does so too, being the end of the
range next to the quantity that it becomes. -/
theorem roundToInt32_toSingle_eq_iff (a : Int32) :
    a.toSingle.roundToInt32 = a ↔ a = maxValue ∨ Float32.FitsSingle a.toInt := by
  obtain ⟨k, bound, rounds, same⟩ := a.exists_roundToInt32_toSingle
  rw [rounds, ← same]
  constructor
  · intro back
    have low : minValue.toInt ≤ k := neg_le_of_abs_le bound
    rcases le_or_gt k maxValue.toInt with inside | beyond
    · exact .inr (by rw [← toInt_ofIntClamp low inside, back])
    · rw [ofIntClamp, dif_pos low, dif_neg beyond.not_ge] at back
      exact .inl back.symm
  · rintro (rfl | rfl)
    · rw [← rounds]
      decide +kernel
    · exact ofIntClamp_toInt a

end Int32
