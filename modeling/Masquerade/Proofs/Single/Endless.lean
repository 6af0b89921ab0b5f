import Masquerade.Proofs.Single.Sums

/-!
# Sums and differences with infinity

A quantity that is not negative and not finite is infinity (`endless_iff`). Adding something finite leaves
it infinity, and infinity taken from infinity is not a number. Otherwise a number and something finite have
a sum and a difference that are numbers.
-/

namespace Float32

open Float.Model Float.Model.UnpackedFloat

variable {x y : Float32}

theorem endless_iff (nonneg : 0 ≤ x) : x.isFinite = false ↔ x.toModel.unpack = .infinity .positive := by
  obtain ⟨v, hv, pos⟩ := zero_le_iff_point.1 nonneg
  refine ⟨fun endless => eq_infinity_of_nonneg endless hv pos, fun infinite => ?_⟩
  show x.toModel.unpack.isFinite = false
  rw [infinite]
  rfl

/-- What lies between zero and something finite is finite. -/
theorem isFinite_of_le (nonneg : 0 ≤ x) (below : x ≤ y) (finite : y.isFinite = true) :
    x.isFinite = true := by
  by_contra endless
  rw [Bool.not_eq_true, endless_iff nonneg] at endless
  obtain ⟨p, hp, q, hq, pq⟩ := le_iff.1 below
  rw [place?, endless] at hp
  cases hp
  have bounded : y.toModel.unpack.isFinite = true := finite
  rw [place?] at hq
  generalize y.toModel.unpack = u at hq bounded
  -- finite numbers are of a lower class than infinity
  rcases u with _ | _ | _ | ⟨_ | _, m, e, pos⟩
  · cases bounded
  · cases bounded
  all_goals
    cases hq
    simp [Prod.Lex.toLex_le_toLex] at pq

/-! ## Sums -/

theorem isNaN_add_of_isNaN (none : x.isNaN = true ∨ y.isNaN = true) : (x + y).isNaN = true := by
  have sum {a b : UnpackedFloat} (none : a.isNaN = true ∨ b.isNaN = true) :
      (UnpackedFloat.add .binary32 a b).isNaN = true := by
    cases a with
    | notANumber => rfl
    | infinity | zero | finite =>
      cases b with
      | notANumber => rfl
      | infinity | zero | finite => exact none.elim Bool.noConfusion Bool.noConfusion
  exact (isNaN_unpack_pack _).trans (sum none)

/-- Something finite added to a number gives a number. -/
theorem isNaN_add_finite (number : x.isNaN = false) (finite : y.isFinite = true) :
    (x + y).isNaN = false := by
  have sum {a b : UnpackedFloat} (na : a.isNaN = false) (fb : b.isFinite = true) :
      (UnpackedFloat.add .binary32 a b).isNaN = false := by
    cases b with
    | notANumber | infinity => cases fb
    | zero t =>
      cases a with
      | notANumber => cases na
      | infinity | finite => rfl
      | zero s =>
        obtain ⟨u, zeros⟩ := add_zeros s t
        rw [zeros]
        rfl
    | finite t n f hn =>
      cases a with
      | notANumber => cases na
      | infinity | zero => rfl
      | finite s m e hm => exact isNaN_normalize _ _ _
  exact (isNaN_unpack_pack _).trans (sum number finite)

/-- Something finite added to infinity leaves infinity. -/
theorem unpack_add_endless (infinite : x.toModel.unpack = .infinity .positive)
    (finite : y.isFinite = true) : (x + y).toModel.unpack = .infinity .positive := by
  have sum {b : UnpackedFloat} (fb : b.isFinite = true) :
      UnpackedFloat.add .binary32 (.infinity .positive) b = .infinity .positive := by
    cases b with
    | notANumber | infinity => cases fb
    | zero | finite => rfl
  show (Model.pack (UnpackedFloat.add .binary32 x.toModel.unpack y.toModel.unpack)).unpack = _
  rw [infinite, sum finite]
  exact Stored.unpack_pack (a := .infinity .positive) trivial

/-! ## Differences -/

/-- Something finite taken from a number leaves a number. -/
theorem isNaN_sub_finite (number : x.isNaN = false) (finite : y.isFinite = true) :
    (x - y).isNaN = false := by
  have difference {a b : UnpackedFloat} (na : a.isNaN = false) (fb : b.isFinite = true) :
      (UnpackedFloat.sub .binary32 a b).isNaN = false := by
    cases b with
    | notANumber | infinity => cases fb
    | zero t =>
      cases a with
      | notANumber => cases na
      | infinity | finite => rfl
      | zero s =>
        obtain ⟨u, zeros⟩ := sub_zeros s t
        rw [zeros]
        rfl
    | finite t n f hn =>
      cases a with
      | notANumber => cases na
      | infinity | zero => rfl
      | finite s m e hm => exact isNaN_normalize _ _ _
  exact (isNaN_unpack_pack _).trans (difference number finite)

theorem isNaN_sub_endless (hx : x.toModel.unpack = .infinity .positive)
    (hy : y.toModel.unpack = .infinity .positive) : (x - y).isNaN = true := by
  refine (isNaN_unpack_pack _).trans ?_
  rw [hx, hy]
  rfl

/-! ## Bounds -/

theorem atLeast_one_endless (infinite : x.toModel.unpack = .infinity .positive) :
    x.atLeast 1 = x := by
  have above : 1 < x := by
    refine lt_iff.2 ⟨_, rfl, toLex (2, toLex (0, 0)), ?_, by decide⟩
    rw [place?, infinite]
    rfl
  rw [atLeast, if_pos above]

/-- Moving something into a range leaves a number a number, and does not make a number of anything. -/
theorem isNaN_within {lo hi : Float32} (ordered : lo ≤ hi) (x : Float32) :
    (x.within lo hi).isNaN = x.isNaN := by
  cases h : x.isNaN with
  | true => rw [within_of_isNaN h, h]
  | false => exact (isNaN_of_le (within_mem ordered h).1).2

end Float32
