import Mathlib.Data.Int.Log
import Mathlib.Data.Rat.Floor
import Mathlib.Tactic.FieldSimp
import Mathlib.Tactic.Linarith
import Mathlib.Tactic.Ring
import Masquerade.Proofs.Single.Canonical

/-!
# Rounding

A positive rational is rounded on the grid of the binary32 numbers around it, to the nearest mantissa and
of two such to the even one (`rounded`). Rounding keeps the order (`rounded_mono`) and leaves the numbers
of the format alone (`Canonical.rounded_eq`). The arithmetic of the core shifts mantissas, with one bit for
the half and one for whatever else is lost; this comes to the same (`round_eq`).
-/

namespace Float32

open Float.Model Float.Model.UnpackedFloat

/-! ## The nearest whole number -/

/-- The whole number nearest to `q`, a half going to the even neighbour. -/
def nearestEven (q : ℚ) : ℤ :=
  if Int.fract q < 1 / 2 then ⌊q⌋
  else if 1 / 2 < Int.fract q then ⌊q⌋ + 1
  else ⌊q⌋ + ⌊q⌋ % 2

theorem nearestEven_natCast (n : ℕ) : nearestEven n = n := by
  rw [nearestEven, Int.fract_natCast, if_pos (by norm_num), Int.floor_natCast]

theorem floor_le_nearestEven (q : ℚ) : ⌊q⌋ ≤ nearestEven q := by
  rw [nearestEven]
  split_ifs <;> omega

theorem nearestEven_le_floor_add_one (q : ℚ) : nearestEven q ≤ ⌊q⌋ + 1 := by
  rw [nearestEven]
  split_ifs <;> omega

theorem nearestEven_mono {a b : ℚ} (h : a ≤ b) : nearestEven a ≤ nearestEven b := by
  rcases (Int.floor_le_floor h).lt_or_eq with below | same
  · have := nearestEven_le_floor_add_one a
    have := floor_le_nearestEven b
    omega
  · -- between the same two whole numbers
    have rest : Int.fract a ≤ Int.fract b := by
      rw [Int.fract, Int.fract, same]
      linarith
    rw [nearestEven, nearestEven, same]
    split_ifs <;> first | omega | linarith

/-! ## The nearest binary32 number -/

/-- The exponent of the binary32 numbers next to a positive `q`. -/
def gridExponent (q : ℚ) : ℤ := max (Int.log 2 q - 23) (-149)

def rounded (q : ℚ) : ℚ := nearestEven (q / 2 ^ gridExponent q) * 2 ^ gridExponent q

theorem two_zpow_pos (k : ℤ) : (0 : ℚ) < 2 ^ k := zpow_pos (by norm_num) k

theorem value_pos {m : ℕ} (pos : 0 < m) (e : ℤ) : (0 : ℚ) < m * 2 ^ e :=
  mul_pos (by exact_mod_cast pos) (two_zpow_pos e)

/-- Bits that are shifted into a mantissa leave its value as it is. -/
theorem value_shiftLeft (m k : ℕ) (e : ℤ) : ((m <<< k : ℕ) : ℚ) * 2 ^ (e - k) = m * 2 ^ e := by
  rw [Nat.shiftLeft_eq, Nat.cast_mul, Nat.cast_pow, zpow_sub₀ (by norm_num), zpow_natCast]
  field_simp
  norm_num

theorem two_zpow_le {j k : ℤ} (h : j ≤ k) : (2 : ℚ) ^ j ≤ 2 ^ k :=
  zpow_le_zpow_right₀ (by norm_num) h

theorem two_zpow_add_ofNat (k : ℤ) (n : ℕ) [n.AtLeastTwo] :
    (2 : ℚ) ^ (k + (OfNat.ofNat n : ℤ)) = ((2 ^ n : ℕ) : ℚ) * 2 ^ k := by
  rw [zpow_add₀ (by norm_num), zpow_ofNat, mul_comm, Nat.cast_pow, Nat.cast_ofNat]
  rfl

theorem gridExponent_mono {a b : ℚ} (pos : 0 < a) (h : a ≤ b) : gridExponent a ≤ gridExponent b :=
  max_le_max_right _ (Int.sub_le_sub_right (Int.log_mono_right pos h) 23)

/-- On its grid a quantity is below the mantissas of 25 bits. -/
theorem lt_grid_top (q : ℚ) : q < 2 ^ (gridExponent q + 24) := by
  have below : q < 2 ^ (Int.log 2 q + 1) := Int.lt_zpow_succ_log_self (by norm_num) q
  refine below.trans_le (two_zpow_le ?_)
  rw [gridExponent]
  omega

/-- Above the least exponent, a quantity fills the mantissas of its grid. -/
theorem grid_bottom_le {q : ℚ} (pos : 0 < q) (above : -149 < gridExponent q) :
    2 ^ (gridExponent q + 23) ≤ q := by
  have exponent : gridExponent q = Int.log 2 q - 23 := by
    rw [gridExponent] at above ⊢
    omega
  rw [exponent, Int.sub_add_cancel]
  exact Int.zpow_log_le_self (by norm_num) pos

/-- Rounding does not pass a number of the grid. -/
theorem rounded_le_of_le {q bound : ℚ} (n : ℕ) (grid : bound = n * 2 ^ gridExponent q)
    (h : q ≤ bound) : rounded q ≤ bound := by
  have unit := two_zpow_pos (gridExponent q)
  have whole : nearestEven (q / 2 ^ gridExponent q) ≤ nearestEven n :=
    nearestEven_mono ((div_le_iff₀ unit).2 (grid ▸ h))
  rw [nearestEven_natCast] at whole
  rw [rounded, grid]
  exact mul_le_mul_of_nonneg_right (by exact_mod_cast whole) unit.le

theorem le_rounded_of_le {q bound : ℚ} (n : ℕ) (grid : bound = n * 2 ^ gridExponent q)
    (h : bound ≤ q) : bound ≤ rounded q := by
  have unit := two_zpow_pos (gridExponent q)
  have whole : nearestEven n ≤ nearestEven (q / 2 ^ gridExponent q) :=
    nearestEven_mono ((le_div_iff₀ unit).2 (grid ▸ h))
  rw [nearestEven_natCast] at whole
  rw [rounded, grid]
  exact mul_le_mul_of_nonneg_right (by exact_mod_cast whole) unit.le

theorem rounded_le_grid_top (q : ℚ) : rounded q ≤ 2 ^ (gridExponent q + 24) :=
  rounded_le_of_le (2 ^ 24) (two_zpow_add_ofNat _ 24) (lt_grid_top q).le

theorem grid_bottom_le_rounded {q : ℚ} (pos : 0 < q) (above : -149 < gridExponent q) :
    2 ^ (gridExponent q + 23) ≤ rounded q :=
  le_rounded_of_le (2 ^ 23) (two_zpow_add_ofNat _ 23) (grid_bottom_le pos above)

theorem rounded_nonneg {q : ℚ} (h : 0 ≤ q) : 0 ≤ rounded q :=
  le_rounded_of_le 0 (by rw [Nat.cast_zero, zero_mul]) h

theorem rounded_zero : rounded 0 = 0 := by
  have whole : nearestEven 0 = 0 := nearestEven_natCast 0
  rw [rounded, zero_div, whole, Int.cast_zero, zero_mul]

theorem rounded_mono {a b : ℚ} (nonneg : 0 ≤ a) (h : a ≤ b) : rounded a ≤ rounded b := by
  rcases nonneg.eq_or_lt with rfl | pos
  · rw [rounded_zero]
    exact rounded_nonneg h
  rcases (gridExponent_mono pos h).lt_or_eq with finer | same
  · -- a power of two lies between the numbers of the two grids
    have least : -149 ≤ gridExponent a := le_max_right _ _
    calc rounded a ≤ 2 ^ (gridExponent a + 24) := rounded_le_grid_top a
      _ ≤ 2 ^ (gridExponent b + 23) := two_zpow_le (by omega)
      _ ≤ rounded b := grid_bottom_le_rounded (pos.trans_le h) (by omega)
  · have unit := two_zpow_pos (gridExponent b)
    have whole := nearestEven_mono (div_le_div_of_nonneg_right h unit.le)
    rw [rounded, rounded, same]
    exact mul_le_mul_of_nonneg_right (by exact_mod_cast whole) unit.le

theorem log_mul_zpow {m : ℕ} (pos : 0 < m) (e : ℤ) : Int.log 2 ((m : ℚ) * 2 ^ e) = m.log2 + e := by
  have unit := two_zpow_pos e
  have value := value_pos pos e
  have low : (2 : ℚ) ^ m.log2 ≤ m := by exact_mod_cast Nat.log2_self_le pos.ne'
  have high : (m : ℚ) < 2 ^ (m.log2 + 1) := by exact_mod_cast Nat.lt_log2_self
  have above : (2 : ℚ) ^ (m.log2 + e) ≤ m * 2 ^ e := by
    rw [zpow_add₀ (by norm_num), zpow_natCast]
    exact mul_le_mul_of_nonneg_right low unit.le
  have below : (m : ℚ) * 2 ^ e < 2 ^ (((m.log2 + 1 : ℕ) : ℤ) + e) := by
    rw [zpow_add₀ (by norm_num), zpow_natCast]
    exact mul_lt_mul_of_pos_right high unit
  have least := (Int.zpow_le_iff_le_log (b := 2) (by norm_num) value).1 above
  have greatest := (Int.lt_zpow_iff_log_lt (b := 2) (by norm_num) value).1 below
  omega

/-! ## How rounding is done -/

/-- What an extended mantissa tells of a quantity: its whole part, whether the rest reaches a half, and
whether it is something else than zero and a half. -/
structure Tells (em : ExtendedMantissa) (q : ℚ) : Prop where
  whole : (em.mantissa : ℤ) = ⌊q⌋
  half : em.roundBit = true ↔ 1 / 2 ≤ Int.fract q
  more : em.stickyBit = true ↔ Int.fract q ≠ 0 ∧ Int.fract q ≠ 1 / 2

theorem tells_natCast (m : ℕ) : Tells ⟨m, false, false⟩ m where
  whole := by simp
  half := by simp
  more := by simp

theorem Tells.shiftRightOne {em : ExtendedMantissa} {q : ℚ} (h : Tells em q) :
    Tells em.shiftRightOne (q / 2) := by
  obtain ⟨whole, half, more⟩ := h
  have low := Int.fract_nonneg q
  have high := Int.fract_lt_one q
  have parts : q = em.mantissa + Int.fract q := by
    rw [← Int.cast_natCast, whole, Int.floor_add_fract]
  have split : (em.mantissa : ℚ) = 2 * (em.mantissa / 2 : ℕ) + (em.mantissa % 2 : ℕ) := by
    exact_mod_cast (Nat.div_add_mod em.mantissa 2).symm
  have bit : ((em.mantissa % 2 : ℕ) : ℚ) = 0 ∨ ((em.mantissa % 2 : ℕ) : ℚ) = 1 := by
    exact_mod_cast Nat.mod_two_eq_zero_or_one em.mantissa
  -- the lowest bit of the mantissa comes to count a half
  have floor : ⌊q / 2⌋ = (em.mantissa / 2 : ℕ) := by
    rw [Int.floor_eq_iff, Int.cast_natCast]
    constructor <;> rcases bit with bit | bit <;> linarith
  have rest : Int.fract (q / 2) = ((em.mantissa % 2 : ℕ) + Int.fract q) / 2 := by
    rw [Int.fract, floor, Int.cast_natCast]
    linarith
  refine ⟨floor.symm, ?_, ?_⟩
  · show (em.mantissa % 2 != 0) = true ↔ _
    rw [rest, bne_iff_ne, ← Nat.cast_ne_zero (R := ℚ)]
    grind
  · show (em.roundBit || em.stickyBit) = true ↔ _
    rw [Bool.or_eq_true, half, more, rest]
    grind

theorem Tells.shiftRight {em : ExtendedMantissa} {q : ℚ} (h : Tells em q) (n : ℕ) :
    Tells (em >>> n) (q / 2 ^ n) := by
  induction n with
  | zero =>
    rw [pow_zero, div_one]
    exact h
  | succ n ih =>
    have next := ih.shiftRightOne
    rwa [div_div, ← pow_succ] at next

theorem Tells.roundedMantissa {em : ExtendedMantissa} {q : ℚ} (h : Tells em q) :
    (em.roundedMantissa : ℤ) = nearestEven q := by
  rcases em with ⟨m, round, sticky⟩
  obtain ⟨whole, half, more⟩ := h
  dsimp only at whole half more
  rw [nearestEven, ← whole]
  cases round with
  | false =>
    have below : Int.fract q < 1 / 2 := by simpa using half
    rw [if_pos below]
    cases sticky <;> rfl
  | true =>
    have above : 1 / 2 ≤ Int.fract q := half.1 rfl
    rw [if_neg above.not_gt]
    cases sticky with
    | false =>
      have tie : Int.fract q = 1 / 2 := by grind
      rw [if_neg tie.not_gt]
      rfl
    | true =>
      obtain ⟨-, off⟩ := more.1 rfl
      rw [if_pos (above.lt_of_ne' off)]
      rfl

theorem totalExponent_eq {m : ℕ} (pos : 0 < m) (e : ℤ) :
    Format.binary32.targetExponent (totalExponent m e) = gridExponent (m * 2 ^ e) := by
  rw [gridExponent, log_mul_zpow pos]
  show max ((m.log2 : ℤ) + 1 + e - 24) (-149) = _
  congr 1
  omega

theorem shiftToTargetExponent_tells {m : ℕ} (pos : 0 < m) {e : ℤ}
    (fine : e ≤ gridExponent (m * 2 ^ e)) :
    (shiftToTargetExponent .binary32 m e .exact).2 = gridExponent (m * 2 ^ e) ∧
      Tells (shiftToTargetExponent .binary32 m e .exact).1
        (m * 2 ^ e / 2 ^ gridExponent (m * 2 ^ e)) := by
  rw [shiftToTargetExponent, totalExponent_eq pos]
  generalize gridExponent (m * 2 ^ e) = t at fine ⊢
  have whole : ((t - e).toNat : ℤ) = t - e := Int.toNat_of_nonneg (Int.sub_nonneg_of_le fine)
  have shifted : (m : ℚ) * 2 ^ e / 2 ^ t = m / 2 ^ (t - e).toNat := by
    rw [← zpow_natCast, whole, zpow_sub₀ (by norm_num)]
    field_simp
  refine ⟨?_, ?_⟩
  · show e + ((t - e).toNat : ℤ) = t
    omega
  · rw [shifted]
    exact (tells_natCast m).shiftRight _

theorem targetExponent_rounded {n : ℕ} {t : ℤ} (short : n ≤ 2 ^ 24) (least : -149 ≤ t)
    (full : 2 ^ 23 ≤ n ∨ t = -149) :
    Format.binary32.targetExponent (totalExponent n t) = if n = 2 ^ 24 then t + 1 else t := by
  show max ((n.log2 : ℤ) + 1 + t - 24) (-149) = _
  split
  · next long =>
    rw [long, Nat.log2_two_pow]
    omega
  · next fits =>
    obtain rfl | pos := Nat.eq_zero_or_pos n
    · simp only [Nat.log2_zero]
      omega
    · have below : n.log2 < 24 := (Nat.log2_lt pos.ne').2 (by omega)
      have above := Nat.le_log2 (k := 23) pos.ne'
      omega

/-- Once it is rounded, a mantissa is at most one bit too long, and then its lowest bit is zero. -/
theorem shiftToTargetExponent_rounded {n : ℕ} {t : ℤ} (short : n ≤ 2 ^ 24) (least : -149 ≤ t)
    (full : 2 ^ 23 ≤ n ∨ t = -149) :
    let shifted := shiftToTargetExponent .binary32 n t .exact
    Canonical shifted.1.mantissa shifted.2 ∧
      (shifted.1.mantissa : ℚ) * 2 ^ shifted.2 = n * 2 ^ t := by
  intro shifted
  have target := targetExponent_rounded short least full
  by_cases long : n = 2 ^ 24
  · rw [if_pos long] at target
    have shift : shifted = (⟨2 ^ 23, false, false⟩, t + 1) := by
      show shiftToTargetExponent .binary32 n t .exact = _
      rw [shiftToTargetExponent, target, long, shiftToExponent, add_sub_cancel_left]
      rfl
    rw [shift, long]
    refine ⟨⟨show 2 ^ 23 < 2 ^ 24 by decide, show -149 ≤ t + 1 by omega, .inl le_rfl⟩, ?_⟩
    rw [zpow_add₀ (by norm_num)]
    push_cast
    ring
  · rw [if_neg long] at target
    have shift : shifted = (⟨n, false, false⟩, t) := by
      show shiftToTargetExponent .binary32 n t .exact = _
      rw [shiftToTargetExponent, target, shiftToExponent, sub_self, Int.toNat_zero, Int.natCast_zero,
        add_zero]
      rfl
    rw [shift]
    exact ⟨⟨lt_of_le_of_ne short long, least, full⟩, rfl⟩

theorem Canonical.gridExponent_eq {m : ℕ} {e : ℤ} (c : Canonical m e) (pos : 0 < m) :
    gridExponent (m * 2 ^ e) = e := by
  obtain ⟨short, least, full⟩ := c
  have below : m.log2 < 24 := (Nat.log2_lt pos.ne').2 short
  have above := Nat.le_log2 (k := 23) pos.ne'
  rw [gridExponent, log_mul_zpow pos]
  omega

/-- A number of the format is rounded to itself. -/
theorem Canonical.rounded_eq {m : ℕ} {e : ℤ} (c : Canonical m e) (pos : 0 < m) :
    rounded (m * 2 ^ e) = m * 2 ^ e := by
  have grid : (m : ℚ) * 2 ^ e = m * 2 ^ gridExponent (m * 2 ^ e) := by
    rw [c.gridExponent_eq pos]
  exact le_antisymm (rounded_le_of_le m grid le_rfl) (le_rounded_of_le m grid le_rfl)

/-- The unpacked number with a mantissa that may be zero. -/
def ofMantissa (s : Sign) (n : ℕ) (t : ℤ) : UnpackedFloat :=
  if h : n = 0 then .zero s else .finite s n t (Nat.pos_of_ne_zero h)

theorem roundWithAccuracy_eq (s : Sign) {m : ℕ} (pos : 0 < m) {e : ℤ}
    (fine : e ≤ gridExponent (m * 2 ^ e)) :
    ∃ n t, Canonical n t ∧ (n : ℚ) * 2 ^ t = rounded (m * 2 ^ e) ∧
      roundWithAccuracy .binary32 s m e .exact = ofMantissa s n t := by
  have value := value_pos pos e
  obtain ⟨exponent, tells⟩ := shiftToTargetExponent_tells pos fine
  rw [roundWithAccuracy]
  generalize shiftToTargetExponent .binary32 m e .exact = first at exponent tells
  rcases first with ⟨em, t⟩
  dsimp only at exponent tells ⊢
  subst exponent
  have nearest := tells.roundedMantissa
  generalize em.roundedMantissa = n at nearest
  have unit := two_zpow_pos (gridExponent (m * 2 ^ e))
  have same : (n : ℚ) * 2 ^ gridExponent (m * 2 ^ e) = rounded (m * 2 ^ e) := by
    rw [rounded, ← nearest, Int.cast_natCast]
  have short : n ≤ 2 ^ 24 := by
    have top := rounded_le_grid_top (m * 2 ^ e)
    rw [← same, two_zpow_add_ofNat _ 24] at top
    exact_mod_cast le_of_mul_le_mul_right top unit
  have full : 2 ^ 23 ≤ n ∨ gridExponent (m * 2 ^ e) = -149 := by
    rcases (le_max_right _ _ : -149 ≤ gridExponent (m * 2 ^ e)).lt_or_eq with above | least
    · have bottom := grid_bottom_le_rounded value above
      rw [← same, two_zpow_add_ofNat _ 23] at bottom
      exact .inl (by exact_mod_cast le_of_mul_le_mul_right bottom unit)
    · exact .inr least.symm
  obtain ⟨canonical, kept⟩ := shiftToTargetExponent_rounded short (le_max_right _ _) full
  exact ⟨_, _, canonical, kept.trans same, rfl⟩

theorem round_eq (s : Sign) {m : ℕ} (pos : 0 < m) (e : ℤ) :
    ∃ n t, Canonical n t ∧ (n : ℚ) * 2 ^ t = rounded (m * 2 ^ e) ∧
      UnpackedFloat.round .binary32 s m e = ofMantissa s n t := by
  rw [UnpackedFloat.round, totalExponent_eq pos, decreaseExponent]
  dsimp only
  have value := value_shiftLeft m (e - gridExponent (m * 2 ^ e)).toNat e
  have still : 0 < m <<< (e - gridExponent (m * 2 ^ e)).toNat := by
    rw [Nat.shiftLeft_eq]
    exact Nat.mul_pos pos (Nat.two_pow_pos _)
  have rounds := roundWithAccuracy_eq s still
    (e := e - (e - gridExponent (m * 2 ^ e)).toNat) (by rw [value]; omega)
  rwa [value] at rounds

end Float32
