import Masquerade.Proofs.Single.Points

/-!
# Sums, products and whole numbers

The sum and the product of two finite quantities stand at the points to which the exact ones are rounded
(`Stored.point_add`, `Stored.point_mul`), and a whole number stands at the point to which it is rounded
(`point?_ofWhole`). Rounding keeps the order, and so nothing is lost by adding what is not negative
(`le_add_of_nonneg`), and sums, products and differences of what is not negative, the difference with the
smaller one taken away, are not negative either. An infinity does no harm to sums, and none to a quotient
by a positive finite number (`isNaN_div`).
-/

namespace Float32

open Float.Model Float.Model.UnpackedFloat

/-! ## Points of sums and products -/

theorem nearest_nonneg {q : ℚ} (h : 0 ≤ q) : 0 ≤ nearest q :=
  nearest_zero ▸ nearest_mono h

theorem Canonical.nearest_eq {m : ℕ} {e : ℤ} (c : Canonical m e) (small : e ≤ 104) (pos : 0 < m) :
    nearest (m * 2 ^ e) = m * 2 ^ e :=
  Stored.nearest_eq (a := .finite .positive m e pos) ⟨c, small⟩ rfl
    (by rw [pointOf_finite, Sign.apply, Int.cast_natCast])

/-- The sum of two finite numbers is the exact one, rounded once. -/
theorem Stored.point_add {a b : UnpackedFloat} (sa : Stored a) (sb : Stored b)
    (fa : a.isFinite = true) (fb : b.isFinite = true) {v w : ℚ} (hv : pointOf a = some v)
    (hw : pointOf b = some w) :
    pointOf (Model.pack (UnpackedFloat.add .binary32 a b)).unpack = some (nearest (v + w)) := by
  cases a with
  | notANumber | infinity => cases fa
  | zero s =>
    cases hv
    cases b with
    | notANumber | infinity => cases fb
    | zero t =>
      cases hw
      obtain ⟨u, zeros⟩ := add_zeros s t
      rw [zeros]
      exact Stored.point_pack (a := .zero u) trivial rfl (by rw [pointOf_zero, add_zero])
    | finite t n f hn => exact sb.point_pack rfl (by rw [hw, zero_add])
  | finite s m e hm =>
    cases b with
    | notANumber | infinity => cases fb
    | zero t =>
      cases hw
      exact sa.point_pack rfl (by rw [hv, add_zero])
    | finite t n f hn =>
      cases hv
      cases hw
      rw [add_finites, point_pack_normalize, Int.cast_add, add_mul, apply_value, apply_value,
        value_aligned m (min_le_left e f), value_aligned n (min_le_right e f), ← apply_value,
        ← apply_value]

/-- A product of mantissas is fine enough for the grid around it. -/
theorem Canonical.fine_mul {m n : ℕ} {e f : ℤ} (c : Canonical m e) (d : Canonical n f) (hm : 0 < m)
    (hn : 0 < n) : e + f ≤ gridExponent ((m * n : ℕ) * 2 ^ (e + f)) := by
  have pos : 0 < m * n := Nat.mul_pos hm hn
  rw [gridExponent, log_mul_zpow pos]
  -- one full mantissa makes the product a full one; two that are not full stand on the finest grid
  rcases c.full with full | least
  · have long : 2 ^ 23 ≤ m * n := full.trans (Nat.le_mul_of_pos_right m hn)
    have bits := (Nat.le_log2 pos.ne').2 long
    omega
  · rcases d.full with full | least'
    · have long : 2 ^ 23 ≤ m * n := full.trans (Nat.le_mul_of_pos_left n hm)
      have bits := (Nat.le_log2 pos.ne').2 long
      omega
    · omega

/-- The product of two finite numbers is the exact one, rounded once. -/
theorem Stored.point_mul {a b : UnpackedFloat} (sa : Stored a) (sb : Stored b)
    (fa : a.isFinite = true) (fb : b.isFinite = true) {v w : ℚ} (hv : pointOf a = some v)
    (hw : pointOf b = some w) :
    pointOf (Model.pack (UnpackedFloat.mul .binary32 a b)).unpack = some (nearest (v * w)) := by
  have nothing (s : Sign) (h : v * w = 0) :
      pointOf (Model.pack (.zero s)).unpack = some (nearest (v * w)) := by
    rw [Stored.unpack_pack (a := .zero s) trivial, h, nearest_zero, pointOf_zero]
  cases a with
  | notANumber | infinity => cases fa
  | zero s =>
    cases hv
    cases b with
    | notANumber | infinity => cases fb
    | zero t | finite t n f hn => exact nothing _ (zero_mul w)
  | finite s m e hm =>
    cases b with
    | notANumber | infinity => cases fb
    | zero t =>
      cases hw
      exact nothing _ (mul_zero v)
    | finite t n f hn =>
      cases hv
      cases hw
      obtain ⟨k, g, c, value, rounds⟩ :=
        roundWithAccuracy_eq (s * t) (Nat.mul_pos hm hn) (sa.1.fine_mul sb.1 hm hn)
      have exact : ((s.apply m : ℤ) : ℚ) * 2 ^ e * ((t.apply n : ℤ) * 2 ^ f) =
          ((s * t).apply 1 : ℤ) * ((m * n : ℕ) * 2 ^ (e + f)) := by
        have signs : ((s * t).apply 1 : ℤ) = s.apply 1 * t.apply 1 := by
          cases s <;> cases t <;> rfl
        rw [apply_value, apply_value, signs, zpow_add₀ (by norm_num)]
        push_cast
        ring
      rw [mul_finites, rounds, point_pack_ofMantissa _ c, value, exact,
        nearest_apply _ (value_pos (Nat.mul_pos hm hn) _)]

/-! ## What is not negative -/

theorem Stored.le_overflow {a : UnpackedFloat} (stored : Stored a) {v : ℚ} (hv : pointOf a = some v) :
    v ≤ 2 ^ 128 := by
  cases a with
  | notANumber => cases hv
  | infinity s =>
    cases hv
    cases s <;> norm_num [Sign.apply]
  | zero s =>
    cases hv
    norm_num
  | finite s m e pos =>
    cases hv
    have value := value_pos pos e
    have below := stored.1.lt_overflow stored.2
    rw [apply_value]
    cases s <;> simp [Sign.apply] <;> linarith

theorem eq_infinity_of_nonneg {a : UnpackedFloat} (endless : a.isFinite = false) {v : ℚ}
    (hv : pointOf a = some v) (nonneg : 0 ≤ v) : a = .infinity .positive := by
  rcases nonneg.eq_or_lt with zero | pos
  · cases a with
    | notANumber => cases hv
    | zero | finite => cases endless
    | infinity s =>
      cases hv
      cases s <;> norm_num [Sign.apply] at zero
  · exact eq_infinity_of_pos endless hv pos

/-- A sum with infinity is infinity, if the other number is not negative. -/
theorem add_infinity {a b : UnpackedFloat} {v w : ℚ} (hv : pointOf a = some v) (hw : pointOf b = some w)
    (nonneg : 0 ≤ v ∧ 0 ≤ w) (endless : a.isFinite = false ∨ b.isFinite = false) :
    UnpackedFloat.add .binary32 a b = .infinity .positive := by
  cases fa : a.isFinite with
  | false =>
    obtain rfl := eq_infinity_of_nonneg fa hv nonneg.1
    cases fb : b.isFinite with
    | false =>
      obtain rfl := eq_infinity_of_nonneg fb hw nonneg.2
      rfl
    | true =>
      cases b with
      | notANumber | infinity => cases fb
      | zero | finite => rfl
  | true =>
    have fb : b.isFinite = false := endless.resolve_left (by simp [fa])
    obtain rfl := eq_infinity_of_nonneg fb hw nonneg.2
    cases a with
    | notANumber | infinity => cases fa
    | zero | finite => rfl

variable {x y : Float32}

theorem zero_le_iff_point : 0 ≤ x ↔ ∃ v, x.point? = some v ∧ 0 ≤ v := by
  rw [le_iff_point]
  constructor
  · rintro ⟨z, hz, v, hv, h⟩
    cases hz
    exact ⟨v, hv, h⟩
  · rintro ⟨v, hv, h⟩
    exact ⟨0, rfl, v, hv, h⟩

/-- Adding what is not negative to what is not negative makes nothing smaller. -/
theorem le_add_of_nonneg (hx : 0 ≤ x) (hy : 0 ≤ y) : x ≤ x + y := by
  obtain ⟨v, hv, vNonneg⟩ := zero_le_iff_point.1 hx
  obtain ⟨w, hw, wNonneg⟩ := zero_le_iff_point.1 hy
  refine le_iff_point.2 ⟨v, hv, ?_⟩
  by_cases finite : x.isFinite = true ∧ y.isFinite = true
  · -- `v` is on the grid already, so rounding the sum does not fall below it
    have sum := (stored_unpack _).point_add (stored_unpack _) finite.1 finite.2 hv hw
    refine ⟨nearest (v + w), sum, ?_⟩
    calc v = nearest v := ((stored_unpack _).nearest_eq finite.1 hv).symm
      _ ≤ nearest (v + w) := nearest_mono (by linarith)
  · -- no infinities of opposite signs meet, since neither number is negative
    have endless : x.isFinite = false ∨ y.isFinite = false := by
      cases hx : x.isFinite <;> cases hy : y.isFinite <;> simp [hx, hy] at finite ⊢
    have sum : (x + y).point? = some (2 ^ 128) := by
      show pointOf (Model.pack (UnpackedFloat.add .binary32 x.toModel.unpack y.toModel.unpack)).unpack = _
      rw [add_infinity hv hw ⟨vNonneg, wNonneg⟩ endless,
        Stored.unpack_pack (a := .infinity .positive) trivial, pointOf_infinity]
      norm_num [Sign.apply]
    exact ⟨2 ^ 128, sum, (stored_unpack _).le_overflow hv⟩

theorem add_nonneg (hx : 0 ≤ x) (hy : 0 ≤ y) : 0 ≤ x + y :=
  le_trans hx (le_add_of_nonneg hx hy)

theorem mul_nonneg (hx : 0 ≤ x) (hy : 0 ≤ y) (fx : x.isFinite = true) (fy : y.isFinite = true) :
    0 ≤ x * y := by
  obtain ⟨v, hv, vNonneg⟩ := zero_le_iff_point.1 hx
  obtain ⟨w, hw, wNonneg⟩ := zero_le_iff_point.1 hy
  have product := (stored_unpack _).point_mul (stored_unpack _) fx fy hv hw
  exact zero_le_iff_point.2 ⟨_, product, nearest_nonneg (Rat.mul_nonneg vNonneg wNonneg)⟩

/-- Taking a finite number that is not negative from a number that is not smaller. -/
theorem sub_nonneg (hy : 0 ≤ y) (fy : y.isFinite = true) (h : y ≤ x) : 0 ≤ x - y := by
  obtain ⟨w, hw, v, hv, wv⟩ := le_iff_point.1 h
  obtain ⟨w', hw', wNonneg⟩ := zero_le_iff_point.1 hy
  obtain rfl : w = w' := Option.some.inj (hw.symm.trans hw')
  refine zero_le_iff_point.2 ?_
  cases fx : x.isFinite with
  | true =>
    have difference := (stored_unpack _).point_sub (stored_unpack _) fx fy hv hw
    exact ⟨_, difference, nearest_nonneg (by linarith)⟩
  | false =>
    refine ⟨v, ?_, wNonneg.trans wv⟩
    show pointOf (Model.pack (UnpackedFloat.sub .binary32 x.toModel.unpack y.toModel.unpack)).unpack = _
    have endless : x.toModel.unpack = .infinity .positive :=
      eq_infinity_of_nonneg fx hv (wNonneg.trans wv)
    rw [endless, infinity_sub .positive fy, Stored.unpack_pack (a := .infinity .positive) trivial,
      ← endless]
    exact hv

/-- A number divided by a positive finite one is a number. -/
theorem isNaN_div (number : x.isNaN = false) (finite : y.isFinite = true) (pos : 0 < y) :
    (x / y).isNaN = false := by
  have quotient {a b : UnpackedFloat} (na : a.isNaN = false) (fb : b.isFinite = true)
      (nonzero : ∀ s, b ≠ .zero s) : (UnpackedFloat.div .binary32 a b).isNaN = false := by
    cases b with
    | notANumber | infinity => cases fb
    | zero s => exact absurd rfl (nonzero s)
    | finite t n f hn =>
      cases a with
      | notANumber => cases na
      | infinity | zero => rfl
      | finite s m e hm => exact isNaN_roundWithAccuracy _ _ _ _
  refine (isNaN_unpack_pack _).trans (quotient number finite fun s zero => ?_)
  obtain ⟨v, hv, w, hw, below⟩ := lt_iff_point.1 pos
  cases hv
  rw [point?, zero] at hw
  cases hw
  exact absurd below (lt_irrefl 0)

/-! ## Whole numbers -/

theorem point?_ofWhole (i : ℤ) : (ofWhole i).point? = some (nearest i) := by
  have size : ((i.natAbs : ℕ) : ℚ) = |(i : ℚ)| := by rw [Nat.cast_natAbs, Int.cast_abs]
  show pointOf (Model.pack (UnpackedFloat.round .binary32 _ i.natAbs 0)).unpack = _
  rcases lt_trichotomy i 0 with neg | rfl | pos
  · rw [point_pack_round _ (by omega), decide_eq_true neg, size, abs_of_neg (by exact_mod_cast neg)]
    simp [Sign.apply]
  · rw [Int.cast_zero, nearest_zero]
    rfl
  · rw [point_pack_round _ (by omega), decide_eq_false pos.not_gt, size,
      abs_of_pos (by exact_mod_cast pos)]
    simp [Sign.apply]

/-- A quantity that stands inside the infinities is finite. -/
theorem isFinite_of_point {v : ℚ} (hv : x.point? = some v) (inside : |v| < 2 ^ 128) :
    x.isFinite = true := by
  show x.toModel.unpack.isFinite = true
  rw [point?] at hv
  cases h : x.toModel.unpack with
  | zero | finite => rfl
  | notANumber =>
    rw [h] at hv
    cases hv
  | infinity s =>
    rw [h] at hv
    cases hv
    cases s <;> norm_num [Sign.apply] at inside

theorem nearest_two_pow {k : ℕ} (small : k ≤ 127) : nearest (2 ^ k) = 2 ^ k := by
  have value : ((2 ^ 23 : ℕ) : ℚ) * 2 ^ ((k : ℤ) - 23) = 2 ^ k := by
    rw [← zpow_natCast 2 k, show (k : ℤ) = 23 + ((k : ℤ) - 23) by omega, zpow_add₀ (by norm_num)]
    norm_num
  have canonical : Canonical (2 ^ 23) ((k : ℤ) - 23) := ⟨by norm_num, by omega, .inl le_rfl⟩
  rw [← value]
  exact canonical.nearest_eq (by omega) (by norm_num)

theorem zero_le_ofWhole {i : ℤ} (nonneg : 0 ≤ i) : 0 ≤ ofWhole i :=
  zero_le_iff_point.2 ⟨_, point?_ofWhole i, nearest_nonneg (by exact_mod_cast nonneg)⟩

theorem ofWhole_pos {i : ℤ} (pos : 0 < i) : 0 < ofWhole i := by
  have one : nearest 1 = 1 := by simpa using nearest_two_pow (k := 0) (by norm_num)
  refine lt_iff_point.2 ⟨0, rfl, nearest i, point?_ofWhole i, ?_⟩
  calc (0 : ℚ) < nearest 1 := by rw [one]; norm_num
    _ ≤ nearest i := nearest_mono (by exact_mod_cast pos)

theorem isFinite_ofWhole {i : ℤ} (nonneg : 0 ≤ i) (small : i ≤ 2 ^ 127) :
    (ofWhole i).isFinite = true := by
  refine isFinite_of_point (point?_ofWhole i) ?_
  rw [abs_of_nonneg (nearest_nonneg (by exact_mod_cast nonneg))]
  calc nearest i ≤ nearest (2 ^ 127) := nearest_mono (by exact_mod_cast small)
    _ = 2 ^ 127 := nearest_two_pow le_rfl
    _ < 2 ^ 128 := by norm_num

end Float32

namespace Int32

theorem toSingle_of_nonneg {a : Int32} (nonneg : 0 ≤ a) :
    0 ≤ a.toSingle ∧ a.toSingle.isFinite = true := by
  have whole : 0 ≤ a.toInt := Int32.le_iff_toInt_le.1 nonneg
  have below : a.toInt < 2 ^ 31 := a.toInt_lt
  exact ⟨Float32.zero_le_ofWhole whole, Float32.isFinite_ofWhole whole (by omega)⟩

end Int32

namespace UInt32

theorem toSingle_of_pos {a : UInt32} (pos : 0 < a) :
    0 < a.toSingle ∧ a.toSingle.isFinite = true := by
  have whole : 0 < a.toNat := UInt32.lt_iff_toNat_lt.1 pos
  have below : a.toNat < 2 ^ 32 := a.toNat_lt
  exact ⟨Float32.ofWhole_pos (by omega), Float32.isFinite_ofWhole (by omega) (by omega)⟩

end UInt32
