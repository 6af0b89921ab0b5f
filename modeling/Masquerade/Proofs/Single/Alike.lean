import Masquerade.Proofs.Single.Monotone

/-!
# Numbers alike

Two quantities are alike if they compare as equal or if neither of them is a number (`Float32.Alike`), that
is, if they stand at the same place of the order. Only zeros are alike without being the same. A sum and the
two bounds of a stat do not tell apart what is alike. A number that is multiplied by one or added to zero
stays alike (`alike_mul_one`, `alike_zero_add`), though a zero may lose its sign.
-/

namespace Float32

open Float.Model Float.Model.UnpackedFloat

/-- Equal in comparisons, or both no number. -/
def Alike (x y : Float32) : Prop := (x == y) = true ∨ x.isNaN = true ∧ y.isNaN = true

instance (x y : Float32) : Decidable (x.Alike y) := inferInstanceAs (Decidable (_ ∨ _))

variable {x y z lo hi : Float32}

theorem beq_iff : (x == y) = true ↔ ∃ p, x.place? = some p ∧ y.place? = some p := by
  rw [place?, place?, ← compare_eq_eq_iff]
  show (x.toModel.unpack.compare y.toModel.unpack == some .eq) = true ↔ _
  exact beq_iff_eq

theorem alike_iff : x.Alike y ↔ x.place? = y.place? := by
  have none (x : Float32) : x.isNaN = true ↔ x.place? = none := by
    rw [← Option.isNone_iff_eq_none]
    exact Eq.congr_left (isNaN_eq_isNone_placeOf x.toModel.unpack)
  rw [Alike, beq_iff, none, none]
  constructor
  · rintro (⟨p, hx, hy⟩ | ⟨hx, hy⟩)
    · rw [hx, hy]
    · rw [hx, hy]
  · intro h
    rw [h]
    cases y.place? with
    | none => exact .inr ⟨rfl, rfl⟩
    | some p => exact .inl ⟨p, rfl, rfl⟩

/-- Zeros of either sign are alike. -/
example : (-0.0 : Float32).Alike 0 ∧ (-0.0 : Float32) ≠ 0 := by decide +kernel

theorem Alike.refl (x : Float32) : x.Alike x := alike_iff.2 rfl

theorem Alike.symm (h : x.Alike y) : y.Alike x := alike_iff.2 (alike_iff.1 h).symm

theorem Alike.trans (h₁ : x.Alike y) (h₂ : y.Alike z) : x.Alike z :=
  alike_iff.2 ((alike_iff.1 h₁).trans (alike_iff.1 h₂))

/-- At one place of the order there is one number, or there are the two zeros. -/
theorem eq_or_zero_of_placeOf {a b : UnpackedFloat} (h : placeOf a = placeOf b) :
    a = b ∨ ∃ s t, a = .zero s ∧ b = .zero t := by
  rcases a with (_ | _) | _ | _ | ⟨_ | _, m, e, hm⟩ <;>
  rcases b with (_ | _) | _ | _ | ⟨_ | _, n, f, hn⟩ <;>
  dsimp only [placeOf] at h <;>
  first
  | exact .inl rfl
  | exact .inr ⟨_, _, rfl, rfl⟩
  | simp at h
  -- at one place, finite numbers of one sign agree in exponent and mantissa
  case finite.negative.finite.negative | finite.positive.finite.positive =>
    obtain ⟨rfl, rfl⟩ := h
    exact .inl rfl

theorem Alike.unpack_cases (h : x.Alike y) :
    x.toModel.unpack = y.toModel.unpack ∨
      ∃ s t, x.toModel.unpack = .zero s ∧ y.toModel.unpack = .zero t :=
  eq_or_zero_of_placeOf (alike_iff.1 h)

/-- Numbers at one point are alike. -/
theorem alike_of_point {v : ℚ} (hx : x.point? = some v) (hy : y.point? = some v) : x.Alike y := by
  obtain ⟨p, hp⟩ := exists_place_iff.2 ⟨v, hx⟩
  obtain ⟨q, hq⟩ := exists_place_iff.2 ⟨v, hy⟩
  have notBelow : ¬ p < q := fun below =>
    lt_irrefl v ((stored_unpack x.toModel).point_lt (stored_unpack y.toModel) hp hq hx hy below)
  have notAbove : ¬ q < p := fun above =>
    lt_irrefl v ((stored_unpack y.toModel).point_lt (stored_unpack x.toModel) hq hp hy hx above)
  obtain rfl : p = q := le_antisymm (not_lt.1 notAbove) (not_lt.1 notBelow)
  exact alike_iff.2 (hp.trans hq.symm)

/-! ## What does not tell them apart -/

theorem Alike.lt_iff_left (h : x.Alike y) : x < z ↔ y < z := by
  rw [lt_iff, lt_iff, alike_iff.1 h]

theorem Alike.lt_iff_right (h : x.Alike y) : z < x ↔ z < y := by
  rw [lt_iff, lt_iff, alike_iff.1 h]

theorem Alike.atLeast (h : x.Alike y) (lo : Float32) : (x.atLeast lo).Alike (y.atLeast lo) := by
  rw [Float32.atLeast, Float32.atLeast]
  by_cases above : lo < x
  · rwa [if_pos above, if_pos (h.lt_iff_right.1 above)]
  · rw [if_neg above, if_neg fun above' => above (h.lt_iff_right.2 above')]
    exact .refl lo

theorem Alike.within (h : x.Alike y) (lo hi : Float32) : (x.within lo hi).Alike (y.within lo hi) := by
  have inner : (if x < lo then lo else x).Alike (if y < lo then lo else y) := by
    by_cases below : x < lo
    · rw [if_pos below, if_pos (h.lt_iff_left.1 below)]
      exact .refl lo
    · rwa [if_neg below, if_neg fun below' => below (h.lt_iff_left.2 below')]
  rw [Float32.within, Float32.within]
  by_cases above : hi < if x < lo then lo else x
  · rw [if_pos above, if_pos (inner.lt_iff_right.1 above)]
    exact .refl hi
  · rwa [if_neg above, if_neg fun above' => above (inner.lt_iff_right.2 above')]

/-! ## Sums with zero -/

theorem zero_add_cases (s : Sign) (b : UnpackedFloat) :
    UnpackedFloat.add .binary32 (.zero s) b = b ∨
      ∃ t u, b = .zero t ∧ UnpackedFloat.add .binary32 (.zero s) b = .zero u := by
  cases b with
  | notANumber | infinity t | finite t n f pos => exact .inl rfl
  | zero t =>
    obtain ⟨u, zeros⟩ := add_zeros s t
    exact .inr ⟨t, u, rfl, zeros⟩

theorem add_zero_cases (s : Sign) (a : UnpackedFloat) :
    UnpackedFloat.add .binary32 a (.zero s) = a ∨
      ∃ t u, a = .zero t ∧ UnpackedFloat.add .binary32 a (.zero s) = .zero u := by
  cases a with
  | notANumber | infinity t | finite t n f pos => exact .inl rfl
  | zero t =>
    obtain ⟨u, zeros⟩ := add_zeros t s
    exact .inr ⟨t, u, rfl, zeros⟩

/-- What is packed again, or a zero packed for a zero, is alike. -/
theorem alike_of_pack {u : UnpackedFloat} (hy : y.toModel.unpack = (Model.pack u).unpack)
    (h : u = x.toModel.unpack ∨ ∃ s t, x.toModel.unpack = .zero s ∧ u = .zero t) : y.Alike x := by
  refine alike_iff.2 ?_
  rw [place?, place?, hy]
  rcases h with rfl | ⟨s, t, hx, rfl⟩
  · rw [(stored_unpack x.toModel).unpack_pack]
  · rw [Stored.unpack_pack (a := .zero t) trivial, hx]
    rfl

theorem alike_zero_add {s : Sign} (zero : x.toModel.unpack = .zero s) (y : Float32) :
    (x + y).Alike y :=
  alike_of_pack (u := UnpackedFloat.add .binary32 x.toModel.unpack y.toModel.unpack) rfl
    (zero ▸ zero_add_cases s _)

theorem alike_add_zero (x : Float32) {s : Sign} (zero : y.toModel.unpack = .zero s) :
    (x + y).Alike x :=
  alike_of_pack (u := UnpackedFloat.add .binary32 x.toModel.unpack y.toModel.unpack) rfl
    (zero ▸ add_zero_cases s _)

/-- Sums do not tell apart what is alike. -/
theorem Alike.add_left (h : x.Alike y) (z : Float32) : (z + x).Alike (z + y) := by
  rcases h.unpack_cases with same | ⟨s, t, hx, hy⟩
  · refine alike_iff.2 (congrArg (fun a => placeOf (Model.pack a).unpack) ?_)
    exact congrArg (UnpackedFloat.add .binary32 z.toModel.unpack) same
  · exact (alike_add_zero z hx).trans (alike_add_zero z hy).symm

/-! ## Products by one -/

/-- A product by one is rounded to what it was. -/
theorem alike_mul_one (x : Float32) : (x * 1).Alike x := by
  have kept (same : UnpackedFloat.mul .binary32 x.toModel.unpack (1 : Float32).toModel.unpack =
      x.toModel.unpack) : (x * 1).Alike x :=
    alike_of_pack rfl (.inl same)
  cases hx : x.toModel.unpack with
  | finite s m e pos =>
    have finite : x.toModel.unpack.isFinite = true := by rw [hx]; rfl
    obtain ⟨v, hv⟩ := isNaN_eq_false_iff_point.1 (isNaN_of_isFinite finite)
    have stored := stored_unpack x.toModel
    have product := stored.point_mul (stored_unpack _) finite rfl hv point?_one
    rw [mul_one, stored.nearest_eq finite hv] at product
    exact alike_of_point product hv
  | notANumber =>
    rw [hx] at kept
    exact kept rfl
  | infinity s | zero s =>
    rw [hx] at kept
    cases s <;> exact kept rfl

end Float32
