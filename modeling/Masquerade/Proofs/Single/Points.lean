import Masquerade.Proofs.Single.Order
import Masquerade.Proofs.Single.Rounding

/-!
# Quantities as points

Every quantity but a NaN stands at a point of the rational line, and the comparisons of quantities are
those of their points (`lt_iff_point`, `le_iff_point`). The difference of two finite quantities stands at
the point to which the exact difference is rounded (`Stored.point_sub`), which moves with the exact one
(`nearest_mono`). So no rounding makes a quantity greater by taking something positive from it
(`sub_le_of_pos`).
-/

namespace Float32

open Float.Model Float.Model.UnpackedFloat

/-! ## Numbers as points -/

/-- The point of the line at which a number stands. The infinities stand next to the greatest numbers. -/
def pointOf : UnpackedFloat → Option ℚ
  | .notANumber => none
  | .infinity s => some (s.apply 1 * 2 ^ 128)
  | .zero _ => some 0
  | .finite s m e _ => some (s.apply m * 2 ^ e)

theorem pointOf_infinity (s : Sign) :
    pointOf (.infinity s) = some (((s.apply 1 : ℤ) : ℚ) * 2 ^ 128) :=
  rfl

theorem pointOf_zero (s : Sign) : pointOf (.zero s) = some 0 :=
  rfl

theorem pointOf_finite (s : Sign) (m : ℕ) (e : ℤ) (h : 0 < m) :
    pointOf (.finite s m e h) = some (((s.apply m : ℤ) : ℚ) * 2 ^ e) :=
  rfl

def point? (x : Float32) : Option ℚ := pointOf x.toModel.unpack

theorem Canonical.lt_overflow {m : ℕ} {e : ℤ} (c : Canonical m e) (small : e ≤ 104) :
    (m : ℚ) * 2 ^ e < 2 ^ 128 := by
  have short : (m : ℚ) < 2 ^ 24 := by exact_mod_cast c.short
  calc (m : ℚ) * 2 ^ e < 2 ^ 24 * 2 ^ e := mul_lt_mul_of_pos_right short (two_zpow_pos e)
    _ ≤ 2 ^ 24 * 2 ^ (104 : ℤ) := mul_le_mul_of_nonneg_left (two_zpow_le small) (by norm_num)
    _ = 2 ^ 128 := by norm_num

theorem Canonical.overflow_le {m : ℕ} {e : ℤ} (c : Canonical m e) (large : 104 < e) :
    2 ^ 128 ≤ (m : ℚ) * 2 ^ e := by
  have full : 2 ^ 23 ≤ m := c.full.resolve_right (by omega)
  calc (2 : ℚ) ^ 128 = 2 ^ 23 * 2 ^ (105 : ℤ) := by norm_num
    _ ≤ 2 ^ 23 * 2 ^ e := mul_le_mul_of_nonneg_left (two_zpow_le large) (by norm_num)
    _ ≤ m * 2 ^ e := mul_le_mul_of_nonneg_right (by exact_mod_cast full) (two_zpow_pos e).le

theorem Canonical.lt_of_lex {m n : ℕ} {e f : ℤ} (c : Canonical m e) (d : Canonical n f)
    (h : e < f ∨ e = f ∧ m < n) : (m : ℚ) * 2 ^ e < n * 2 ^ f := by
  obtain finer | ⟨rfl, less⟩ := h
  · have short : (m : ℚ) < 2 ^ 24 := by exact_mod_cast c.short
    have full : 2 ^ 23 ≤ n := d.full.resolve_right (by have := c.least; omega)
    calc (m : ℚ) * 2 ^ e < 2 ^ 24 * 2 ^ e := mul_lt_mul_of_pos_right short (two_zpow_pos e)
      _ = 2 ^ 23 * 2 ^ (e + 1) := by rw [zpow_add_one₀ (by norm_num)]; ring
      _ ≤ 2 ^ 23 * 2 ^ f := mul_le_mul_of_nonneg_left (two_zpow_le finer) (by norm_num)
      _ ≤ n * 2 ^ f := mul_le_mul_of_nonneg_right (by exact_mod_cast full) (two_zpow_pos f).le
  · exact mul_lt_mul_of_pos_right (by exact_mod_cast less) (two_zpow_pos e)

theorem Stored.point_lt {a b : UnpackedFloat} (sa : Stored a) (sb : Stored b)
    {p q : Int ×ₗ Int ×ₗ Int} {v w : ℚ} (hp : placeOf a = some p) (hq : placeOf b = some q)
    (hv : pointOf a = some v) (hw : pointOf b = some w) (h : p < q) : v < w := by
  rcases a with (_ | _) | _ | _ | ⟨_ | _, m, e, hm⟩ <;>
  rcases b with (_ | _) | _ | _ | ⟨_ | _, n, f, hn⟩ <;>
  cases hp <;> cases hq <;> cases hv <;> cases hw <;>
  dsimp only [Stored] at sa sb <;>
  simp [Prod.Lex.toLex_lt_toLex, Sign.apply] at h sa sb ⊢
  case infinity.negative.finite.negative => exact sb.1.lt_overflow sb.2
  case infinity.negative.finite.positive => linarith [value_pos hn f]
  case zero.finite.positive => exact value_pos hn f
  case finite.negative.infinity.positive => linarith [value_pos hm e]
  case finite.negative.zero => exact value_pos hm e
  case finite.negative.finite.negative => exact sb.1.lt_of_lex sa.1 (by omega)
  case finite.negative.finite.positive => linarith [value_pos hm e, value_pos hn f]
  case finite.positive.infinity.positive => exact sa.1.lt_overflow sa.2
  case finite.positive.finite.positive => exact sa.1.lt_of_lex sb.1 h

theorem pointOf_eq_of_placeOf_eq {a b : UnpackedFloat} {p : Int ×ₗ Int ×ₗ Int}
    (hp : placeOf a = some p) (hq : placeOf b = some p) : pointOf a = pointOf b := by
  rcases a with (_ | _) | _ | _ | ⟨_ | _, m, e, hm⟩ <;>
  rcases b with (_ | _) | _ | _ | ⟨_ | _, n, f, hn⟩ <;>
  cases hp <;> dsimp only [placeOf, pointOf] at hq ⊢ <;> simp at hq ⊢
  case finite.negative.finite.negative.refl | finite.positive.finite.positive.refl =>
    rw [hq.1, hq.2]

theorem Stored.placeOf_lt_iff {a b : UnpackedFloat} (sa : Stored a) (sb : Stored b)
    {p q : Int ×ₗ Int ×ₗ Int} {v w : ℚ} (hp : placeOf a = some p) (hq : placeOf b = some q)
    (hv : pointOf a = some v) (hw : pointOf b = some w) : p < q ↔ v < w := by
  refine ⟨sa.point_lt sb hp hq hv hw, fun below => ?_⟩
  rcases lt_trichotomy p q with h | rfl | h
  · exact h
  · have same : v = w := by simpa [hv, hw] using pointOf_eq_of_placeOf_eq hp hq
    exact absurd same below.ne
  · exact absurd (sb.point_lt sa hq hp hw hv h) below.not_gt

theorem exists_place_iff {a : UnpackedFloat} :
    (∃ p, placeOf a = some p) ↔ ∃ v, pointOf a = some v := by
  rcases a with (_ | _) | _ | _ | ⟨_ | _, m, e, hm⟩ <;>
    dsimp only [placeOf, pointOf] <;> simp

variable {x y : Float32}

theorem isNaN_eq_false_iff_point : x.isNaN = false ↔ ∃ v, x.point? = some v :=
  isNaN_eq_false_iff.trans exists_place_iff

theorem lt_iff_point : x < y ↔ ∃ v, x.point? = some v ∧ ∃ w, y.point? = some w ∧ v < w := by
  rw [lt_iff]
  constructor
  · rintro ⟨p, hp, q, hq, h⟩
    obtain ⟨v, hv⟩ := exists_place_iff.1 ⟨p, hp⟩
    obtain ⟨w, hw⟩ := exists_place_iff.1 ⟨q, hq⟩
    exact ⟨v, hv, w, hw, ((stored_unpack _).placeOf_lt_iff (stored_unpack _) hp hq hv hw).1 h⟩
  · rintro ⟨v, hv, w, hw, h⟩
    obtain ⟨p, hp⟩ := exists_place_iff.2 ⟨v, hv⟩
    obtain ⟨q, hq⟩ := exists_place_iff.2 ⟨w, hw⟩
    exact ⟨p, hp, q, hq, ((stored_unpack _).placeOf_lt_iff (stored_unpack _) hp hq hv hw).2 h⟩

theorem le_iff_point : x ≤ y ↔ ∃ v, x.point? = some v ∧ ∃ w, y.point? = some w ∧ v ≤ w := by
  rw [le_iff_not_lt, isNaN_eq_false_iff_point, isNaN_eq_false_iff_point]
  constructor
  · rintro ⟨⟨v, hv⟩, ⟨w, hw⟩, h⟩
    exact ⟨v, hv, w, hw, not_lt.1 fun above => h (lt_iff_point.2 ⟨w, hw, v, hv, above⟩)⟩
  · rintro ⟨v, hv, w, hw, h⟩
    refine ⟨⟨v, hv⟩, ⟨w, hw⟩, fun above => h.not_gt ?_⟩
    obtain ⟨w', hw', v', hv', above⟩ := lt_iff_point.1 above
    obtain rfl : w = w' := Option.some.inj (hw.symm.trans hw')
    obtain rfl : v = v' := Option.some.inj (hv.symm.trans hv')
    exact above

/-! ## Rounded arithmetic -/

/-- The point of the number to which arithmetic rounds `q`. -/
def nearest (q : ℚ) : ℚ :=
  if 0 ≤ q then min (rounded q) (2 ^ 128) else -min (rounded (-q)) (2 ^ 128)

theorem nearest_zero : nearest 0 = 0 := by
  rw [nearest, if_pos le_rfl, rounded_zero, min_eq_left (by norm_num)]

theorem nearest_apply (s : Sign) {q : ℚ} (pos : 0 < q) :
    nearest (s.apply 1 * q) = s.apply 1 * min (rounded q) (2 ^ 128) := by
  cases s with
  | positive => simp [nearest, Sign.apply, pos.le]
  | negative => simp [nearest, Sign.apply, pos.not_ge]

theorem nearest_mono {a b : ℚ} (h : a ≤ b) : nearest a ≤ nearest b := by
  have bounded {q : ℚ} (nonneg : 0 ≤ q) : 0 ≤ min (rounded q) (2 ^ 128) :=
    le_min (rounded_nonneg nonneg) (by norm_num)
  rw [nearest, nearest]
  split_ifs with ha hb hb
  · exact min_le_min_right _ (rounded_mono ha h)
  · exact absurd (ha.trans h) hb
  · have left := bounded (neg_nonneg.2 (not_le.1 ha).le)
    have right := bounded hb
    linarith
  · exact neg_le_neg (min_le_min_right _
      (rounded_mono (neg_nonneg.2 (not_le.1 hb).le) (neg_le_neg h)))

theorem apply_value (s : Sign) (m : ℕ) (e : ℤ) :
    ((s.apply m : ℤ) : ℚ) * 2 ^ e = s.apply 1 * (m * 2 ^ e) := by
  cases s <;> simp [Sign.apply]

theorem point_pack_ofMantissa (s : Sign) {n : ℕ} {t : ℤ} (c : Canonical n t) :
    pointOf (Model.pack (ofMantissa s n t)).unpack =
      some (s.apply 1 * min ((n : ℚ) * 2 ^ t) (2 ^ 128)) := by
  rw [ofMantissa]
  by_cases none : n = 0
  · have zero : (Model.pack (.zero s)).unpack = .zero s := by cases s <;> rfl
    rw [dif_pos none, zero, none, pointOf_zero]
    simp
  · rw [dif_neg none, unpack_pack_finite c]
    by_cases small : t ≤ 104
    · rw [if_pos small, min_eq_left (c.lt_overflow small).le, pointOf_finite, apply_value]
    · rw [if_neg small, min_eq_right (c.overflow_le (not_le.1 small)), pointOf_infinity]

theorem point_pack_round (s : Sign) {m : ℕ} (pos : 0 < m) (e : ℤ) :
    pointOf (Model.pack (UnpackedFloat.round .binary32 s m e)).unpack =
      some (nearest (s.apply 1 * (m * 2 ^ e))) := by
  obtain ⟨n, t, c, value, rounds⟩ := round_eq s pos e
  rw [rounds, point_pack_ofMantissa s c, value, nearest_apply s (value_pos pos e)]

theorem point_pack_normalize (k e : ℤ) (z : Sign) :
    pointOf (Model.pack (normalize .binary32 k e z)).unpack = some (nearest (k * 2 ^ e)) := by
  rw [UnpackedFloat.normalize]
  rcases lt_trichotomy k 0 with neg | rfl | pos
  · have whole : (((-k).toNat : ℕ) : ℚ) = -k := by
      exact_mod_cast Int.toNat_of_nonneg (by omega)
    rw [compare_lt_iff_lt.2 neg]
    refine (point_pack_round .negative (by omega) e).trans ?_
    rw [whole]
    congr 2
    simp [Sign.apply]
  · have zero : pointOf (Model.pack (.zero z)).unpack = some 0 := by cases z <;> rfl
    refine zero.trans ?_
    rw [Int.cast_zero, zero_mul, nearest_zero]
  · have whole : ((k.toNat : ℕ) : ℚ) = k := by
      exact_mod_cast Int.toNat_of_nonneg (by omega)
    rw [compare_gt_iff_gt.2 pos]
    refine (point_pack_round .positive (by omega) e).trans ?_
    rw [whole]
    congr 2
    simp [Sign.apply]

theorem Stored.nearest_eq {a : UnpackedFloat} (stored : Stored a) (finite : a.isFinite = true) {v : ℚ}
    (hv : pointOf a = some v) : nearest v = v := by
  cases a with
  | notANumber | infinity => cases finite
  | zero =>
    cases hv
    exact nearest_zero
  | finite s m e pos =>
    cases hv
    rw [apply_value, nearest_apply s (value_pos pos e), stored.1.rounded_eq pos,
      min_eq_left (stored.1.lt_overflow stored.2).le]

/-- Where a number that is stored as it is comes to lie. -/
theorem Stored.point_pack {a : UnpackedFloat} (stored : Stored a) (finite : a.isFinite = true) {v : ℚ}
    (hv : pointOf a = some v) : pointOf (Model.pack a).unpack = some (nearest v) := by
  rw [stored.unpack_pack, hv, stored.nearest_eq finite hv]

theorem value_aligned (m : ℕ) {e t : ℤ} (h : t ≤ e) :
    ((m <<< (e - t).toNat : ℕ) : ℚ) * 2 ^ t = m * 2 ^ e := by
  have shift : e - ((e - t).toNat : ℤ) = t := by omega
  have value := value_shiftLeft m (e - t).toNat e
  rwa [shift] at value

/-- The difference of two finite numbers is the exact one, rounded once. -/
theorem Stored.point_sub {a b : UnpackedFloat} (sa : Stored a) (sb : Stored b)
    (fa : a.isFinite = true) (fb : b.isFinite = true) {v w : ℚ} (hv : pointOf a = some v)
    (hw : pointOf b = some w) :
    pointOf (Model.pack (UnpackedFloat.sub .binary32 a b)).unpack = some (nearest (v - w)) := by
  cases a with
  | notANumber | infinity => cases fa
  | zero s =>
    cases b with
    | notANumber | infinity => cases fb
    | zero t =>
      cases hv
      cases hw
      obtain ⟨u, zeros⟩ := sub_zeros s t
      rw [zeros]
      exact Stored.point_pack (a := .zero u) trivial rfl (by rw [pointOf_zero, sub_zero])
    | finite t n f hn =>
      cases hv
      cases hw
      refine Stored.point_pack (a := .finite (-t) n f hn) sb rfl ?_
      rw [pointOf_finite]
      cases t <;> simp [Sign.apply]
  | finite s m e hm =>
    cases b with
    | notANumber | infinity => cases fb
    | zero t =>
      cases hw
      exact sa.point_pack rfl (by rw [hv, sub_zero])
    | finite t n f hn =>
      cases hv
      cases hw
      rw [sub_finites, point_pack_normalize, Int.cast_sub, sub_mul, apply_value, apply_value,
        value_aligned m (min_le_left e f), value_aligned n (min_le_right e f), ← apply_value,
        ← apply_value]

theorem Stored.neg_overflow_le {a : UnpackedFloat} (stored : Stored a) {v : ℚ}
    (hv : pointOf a = some v) : -2 ^ 128 ≤ v := by
  cases a with
  | notANumber => cases hv
  | infinity s =>
    cases hv
    cases s <;> norm_num [Sign.apply]
  | zero s =>
    cases hv
    norm_num
  | finite s m e pos =>
    cases hv
    have value := value_pos pos e
    have below := stored.1.lt_overflow stored.2
    rw [apply_value]
    cases s <;> simp [Sign.apply] <;> linarith

theorem infinity_sub (s : Sign) {b : UnpackedFloat} (finite : b.isFinite = true) :
    UnpackedFloat.sub .binary32 (.infinity s) b = .infinity s := by
  cases b with
  | notANumber | infinity => cases finite
  | zero | finite => rfl

/-- An infinity that is taken away leaves the least of all, or no number. -/
theorem sub_infinity (a : UnpackedFloat) :
    UnpackedFloat.sub .binary32 a (.infinity .positive) = .infinity .negative ∨
      UnpackedFloat.sub .binary32 a (.infinity .positive) = .notANumber := by
  rcases a with (_ | _) | _ | _ | _
  · exact .inl rfl
  · exact .inr rfl
  · exact .inr rfl
  · exact .inl rfl
  · exact .inl rfl

theorem eq_infinity_of_pos {b : UnpackedFloat} (endless : b.isFinite = false) {w : ℚ}
    (hw : pointOf b = some w) (pos : 0 < w) : b = .infinity .positive := by
  cases b with
  | notANumber => cases hw
  | zero | finite => cases endless
  | infinity s =>
    cases s with
    | positive => rfl
    | negative =>
      cases hw
      norm_num [Sign.apply] at pos

/-- Taking away something positive does not lead to the right. -/
theorem Stored.point_sub_le {a b : UnpackedFloat} (sa : Stored a) (sb : Stored b) {u v w : ℚ}
    (hv : pointOf a = some v) (hw : pointOf b = some w) (pos : 0 < w)
    (hu : pointOf (Model.pack (UnpackedFloat.sub .binary32 a b)).unpack = some u) : u ≤ v := by
  cases fb : b.isFinite with
  | true =>
    cases fa : a.isFinite with
    | true =>
      rw [sa.point_sub sb fa fb hv hw, Option.some.injEq] at hu
      calc u = nearest (v - w) := hu.symm
        _ ≤ nearest v := nearest_mono (by linarith)
        _ = v := sa.nearest_eq fa hv
    | false =>
      cases a with
      | notANumber => cases hv
      | zero | finite => cases fa
      | infinity s =>
        rw [infinity_sub s fb, sa.unpack_pack, hv] at hu
        exact (Option.some.inj hu).ge
  | false =>
    obtain rfl := eq_infinity_of_pos fb hw pos
    obtain least | none := sub_infinity a
    · rw [least, Stored.unpack_pack (a := .infinity .negative) trivial] at hu
      cases hu
      simpa [Sign.apply] using sa.neg_overflow_le hv
    · rw [none] at hu
      cases hu

/-- Taking away something positive from a number gives nothing greater. -/
theorem sub_le_of_pos (pos : 0 < y) (number : x.isNaN = false) (left : (x - y).isNaN = false) :
    x - y ≤ x := by
  obtain ⟨v, hv⟩ := isNaN_eq_false_iff_point.1 number
  obtain ⟨u, hu⟩ := isNaN_eq_false_iff_point.1 left
  obtain ⟨z, hz, w, hw, pos⟩ := lt_iff_point.1 pos
  cases hz
  exact le_iff_point.2
    ⟨u, hu, v, hv, (stored_unpack _).point_sub_le (stored_unpack _) hv hw pos hu⟩

end Float32
