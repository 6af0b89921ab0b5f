import Mathlib.Algebra.Group.Nat.Defs
import Mathlib.Logic.Basic
import Masquerade.Single

/-!
# How quantities are stored

A finite binary32 number other than zero is a sign, a mantissa of at most 24 bits and an exponent from
-149 to 104, where the mantissa has fewer bits only under the least exponent (`Canonical`, `Stored`). The
fields of 32 bits stand for nothing else (`ofFields_cases`). Such numbers survive being packed into 32 bits
and unpacked again (`Stored.unpack_pack`), and a number that is not one after packing was none before
(`isNaN_unpack_pack`), so that sums and products of finite numbers are numbers.
-/

namespace Float32

open Float.Model Float.Model.UnpackedFloat

/-- A mantissa and an exponent of the format. -/
structure Canonical (m : Nat) (e : Int) : Prop where
  short : m < 2 ^ 24
  least : -149 ≤ e
  full : 2 ^ 23 ≤ m ∨ e = -149

/-! ## Packed and unpacked -/

/-- The hidden bit of a mantissa. -/
theorem toNat_one_append (mantissa : BitVec 23) :
    (1#1 ++ mantissa).toNat = 2 ^ 23 + mantissa.toNat := by
  rw [BitVec.toNat_append, ← Nat.shiftLeft_add_eq_or_of_lt mantissa.isLt]
  rfl

/-- The number that three fields of bits stand for. The greatest exponent is left to what is not finite, and
under the least one a mantissa has no hidden bit. -/
def ofFields (s : Sign) (exponent : BitVec 8) (mantissa : BitVec 23) : UnpackedFloat :=
  if exponent = -1#8 then
    if mantissa = 0#23 then .infinity s else .notANumber
  else if exponent = 0#8 then
    if h : mantissa = 0#23 then .zero s
    else .finite s mantissa.toNat (exponent.toNat - 150 + 1)
      (by simpa [BitVec.toNat_pos, BitVec.pos_iff_ne_zero])
  else
    .finite s (1#1 ++ mantissa).toNat (exponent.toNat - 150)
      (by rw [toNat_one_append]; exact Nat.add_pos_left (Nat.two_pow_pos 23) _)

theorem unpack_eq (b : BitVec 32) :
    UnpackedFloat.unpack .binary32 b =
      ofFields (Sign.ofBitVec (@unpackSign .binary32 b)) (@unpackExponent .binary32 b)
        (@unpackMantissa .binary32 b) :=
  rfl

section

variable (s : Sign) (exponent : BitVec 8) (mantissa : BitVec 23)

theorem ofFields_normal (low : exponent ≠ 0#8) (high : exponent ≠ -1#8) :
    ∃ pos, ofFields s exponent mantissa =
      .finite s (2 ^ 23 + mantissa.toNat) (exponent.toNat - 150) pos := by
  refine ⟨by omega, ?_⟩
  rw [ofFields, if_neg high, if_neg low, UnpackedFloat.finite.injEq]
  exact ⟨rfl, toNat_one_append mantissa, rfl⟩

theorem ofFields_subnormal (some : mantissa ≠ 0#23) :
    ∃ pos, ofFields s 0#8 mantissa = .finite s mantissa.toNat (-149) pos := by
  refine ⟨by simpa [BitVec.toNat_pos, BitVec.pos_iff_ne_zero], ?_⟩
  rw [ofFields, if_neg (by decide), if_pos rfl, dif_neg some]
  rfl

/-- What fields can stand for: their finite numbers are those of the format. -/
theorem ofFields_cases :
    (exponent = -1#8 ∧
      (ofFields s exponent mantissa = .infinity s ∨ ofFields s exponent mantissa = .notANumber)) ∨
    ofFields s exponent mantissa = .zero s ∨
    ∃ m e h, ofFields s exponent mantissa = .finite s m e h ∧ Canonical m e ∧ e ≤ 104 := by
  by_cases high : exponent = -1#8
  · subst high
    by_cases none : mantissa = 0#23
    · exact .inl ⟨rfl, .inl (if_pos none)⟩
    · exact .inl ⟨rfl, .inr (if_neg none)⟩
  by_cases low : exponent = 0#8
  · subst low
    by_cases none : mantissa = 0#23
    · subst none
      exact .inr (.inl rfl)
    · obtain ⟨pos, fields⟩ := ofFields_subnormal s mantissa none
      exact .inr (.inr ⟨_, _, pos, fields, ⟨by omega, by decide, .inr rfl⟩, by decide⟩)
  · obtain ⟨pos, fields⟩ := ofFields_normal s exponent mantissa low high
    rw [← BitVec.toNat_inj] at low high
    simp at low high
    exact .inr (.inr ⟨_, _, pos, fields, ⟨by omega, by omega, by omega⟩, by omega⟩)

theorem unpackSign_packComponents :
    Sign.ofBitVec (unpackSign (packComponents .binary32 s exponent mantissa)) = s := by
  have sign : unpackSign (packComponents .binary32 s exponent mantissa) = s.toBitVec := by
    show (s.toBitVec ++ exponent ++ mantissa).extractLsb' 31 1 = _
    rw [BitVec.extractLsb'_append_eq_of_le (by decide),
      BitVec.extractLsb'_append_eq_of_le (by decide)]
    cases s <;> rfl
  rw [sign]
  cases s <;> rfl

theorem unpack_packComponents :
    UnpackedFloat.unpack .binary32 (packComponents .binary32 s exponent mantissa) =
      ofFields s exponent mantissa := by
  rw [unpack_eq, unpackSign_packComponents, unpackExponent_packComponents,
    unpackMantissa_packComponents]

end

variable {s : Sign} {m : Nat} {e : Int} {h : 0 < m}

theorem canonical_unpack {x : Model} (unpacked : x.unpack = .finite s m e h) :
    Canonical m e ∧ e ≤ 104 := by
  rw [Model.unpack, unpack_eq] at unpacked
  obtain ⟨-, top | top⟩ | zero | ⟨_, _, _, finite, canonical⟩ :=
    ofFields_cases (Sign.ofBitVec (@unpackSign .binary32 x.toBits.toBitVec))
      (@unpackExponent .binary32 x.toBits.toBitVec) (@unpackMantissa .binary32 x.toBits.toBitVec)
  · cases top.symm.trans unpacked
  · cases top.symm.trans unpacked
  · cases zero.symm.trans unpacked
  · cases finite.symm.trans unpacked
    exact canonical

/-- A finite number is packed as an infinity, with the hidden bit or without. -/
theorem pack_finite (s : Sign) (m : Nat) (e : Int) (h : 0 < m) :
    UnpackedFloat.pack .binary32 (.finite s m e h) =
      if 2 ^ 8 ≤ (e + 150).toNat + 1 then packedInfinity .binary32 s
      else if m.log2 + 1 = 24 then
        packComponents .binary32 s (BitVec.ofNat 8 (e + 150).toNat) (BitVec.ofNat 23 m)
      else packComponents .binary32 s 0#8 (BitVec.ofNat 23 m) := by
  have biased : (e + 150).toNat = (e + 127 + 23).toNat := by
    rw [Int.add_assoc]
    rfl
  rw [biased]
  rfl

/-- Numbers with too great an exponent are stored as infinities, and other ones as they are. -/
theorem unpack_pack_finite (c : Canonical m e) :
    (Model.pack (.finite s m e h)).unpack =
      if e ≤ 104 then .finite s m e h else .infinity s := by
  obtain ⟨short, least, full⟩ := c
  have log2_add_one_eq_iff : m.log2 + 1 = 24 ↔ 2 ^ 23 ≤ m := by
    have below : m.log2 < 24 := (Nat.log2_lt (Nat.ne_of_gt h)).2 short
    have above := Nat.le_log2 (k := 23) (Nat.ne_of_gt h)
    omega
  show UnpackedFloat.unpack .binary32 (UnpackedFloat.pack .binary32 (.finite s m e h)) = _
  rw [pack_finite]
  by_cases small : e ≤ 104
  · rw [if_pos small, if_neg (by omega)]
    by_cases normal : 2 ^ 23 ≤ m
    · have exponent : (BitVec.ofNat 8 (e + 150).toNat).toNat = (e + 150).toNat := by
        rw [BitVec.toNat_ofNat, Nat.mod_eq_of_lt (by omega)]
      have mantissa : 2 ^ 23 + (BitVec.ofNat 23 m).toNat = m := by
        rw [BitVec.toNat_ofNat]
        omega
      have low : BitVec.ofNat 8 (e + 150).toNat ≠ 0#8 := fun none => by
        have zero := exponent.symm.trans (congrArg BitVec.toNat none)
        simp at zero
        omega
      have high : BitVec.ofNat 8 (e + 150).toNat ≠ -1#8 := fun all => by
        have ones := exponent.symm.trans (congrArg BitVec.toNat all)
        simp at ones
        omega
      obtain ⟨pos, fields⟩ := ofFields_normal s _ (BitVec.ofNat 23 m) low high
      rw [if_pos (log2_add_one_eq_iff.2 normal), unpack_packComponents, fields,
        UnpackedFloat.finite.injEq]
      exact ⟨rfl, mantissa, by omega⟩
    · have mantissa : (BitVec.ofNat 23 m).toNat = m := by
        rw [BitVec.toNat_ofNat]
        omega
      have some : BitVec.ofNat 23 m ≠ 0#23 := fun none => by
        rw [none] at mantissa
        simp at mantissa
        omega
      obtain ⟨pos, fields⟩ := ofFields_subnormal s (BitVec.ofNat 23 m) some
      rw [if_neg fun all => normal (log2_add_one_eq_iff.1 all), unpack_packComponents, fields,
        UnpackedFloat.finite.injEq]
      exact ⟨rfl, mantissa, by omega⟩
  · rw [if_neg small, if_pos (by omega)]
    cases s <;> rfl

/-- What a finite number that is stored has for mantissa and exponent. -/
def Stored : UnpackedFloat → Prop
  | .finite _ m e _ => Canonical m e ∧ e ≤ 104
  | _ => True

theorem stored_unpack (x : Model) : Stored x.unpack := by
  cases h : x.unpack with
  | finite s m e pos => exact canonical_unpack h
  | _ => trivial

theorem Stored.unpack_pack {a : UnpackedFloat} (stored : Stored a) : (Model.pack a).unpack = a := by
  cases a with
  | notANumber => rfl
  | infinity s | zero s => cases s <;> rfl
  | finite s m e pos => rw [unpack_pack_finite stored.1, if_pos stored.2]

/-! ## How the core adds and multiplies -/

section

variable (s t : Sign)

theorem add_zeros : ∃ u, UnpackedFloat.add .binary32 (.zero s) (.zero t) = .zero u := by
  cases s <;> cases t <;> exact ⟨_, rfl⟩

theorem sub_zeros : ∃ u, UnpackedFloat.sub .binary32 (.zero s) (.zero t) = .zero u := by
  cases s <;> cases t <;> exact ⟨_, rfl⟩

variable {m n : Nat} (e f : Int) (hm : 0 < m) (hn : 0 < n)

theorem add_finites :
    UnpackedFloat.add .binary32 (.finite s m e hm) (.finite t n f hn) =
      normalize .binary32
        (s.apply (m <<< (e - min e f).toNat) + t.apply (n <<< (f - min e f).toNat)) (min e f)
        .positive :=
  rfl

theorem sub_finites :
    UnpackedFloat.sub .binary32 (.finite s m e hm) (.finite t n f hn) =
      normalize .binary32
        (s.apply (m <<< (e - min e f).toNat) - t.apply (n <<< (f - min e f).toNat)) (min e f)
        .positive :=
  rfl

theorem mul_finites :
    UnpackedFloat.mul .binary32 (.finite s m e hm) (.finite t n f hn) =
      roundWithAccuracy .binary32 (s * t) (m * n) (e + f) .exact :=
  rfl

end

/-! ## What is not a number -/

theorem isNaN_ofFields (s : Sign) (mantissa : BitVec 23) {exponent : BitVec 8}
    (high : exponent ≠ -1#8) : (ofFields s exponent mantissa).isNaN = false := by
  obtain ⟨top, -⟩ | zero | ⟨_, _, _, finite, -⟩ := ofFields_cases s exponent mantissa
  · exact absurd top high
  · rw [zero]
    rfl
  · rw [finite]
    rfl

theorem isNaN_unpack_pack (u : UnpackedFloat) : (Model.pack u).unpack.isNaN = u.isNaN := by
  show (UnpackedFloat.unpack .binary32 (UnpackedFloat.pack .binary32 u)).isNaN = _
  cases u with
  | notANumber => rfl
  | infinity s => cases s <;> rfl
  | zero s => cases s <;> rfl
  | finite s m e h =>
    rw [pack_finite]
    show (UnpackedFloat.unpack .binary32 _).isNaN = false
    split
    · cases s <;> rfl
    · next small =>
      split
      · rw [unpack_packComponents]
        refine isNaN_ofFields s _ fun all => small ?_
        have ones := congrArg BitVec.toNat all
        simp at ones
        show 2 ^ 8 ≤ _
        omega
      · rw [unpack_packComponents]
        exact isNaN_ofFields s _ (by decide)

theorem isNaN_roundWithAccuracy (s : Sign) (m : Nat) (e : Int) (accuracy : Accuracy) :
    (roundWithAccuracy .binary32 s m e accuracy).isNaN = false := by
  rw [roundWithAccuracy]
  exact (apply_dite UnpackedFloat.isNaN _ _ _).trans (dite_eq_iff'.2 ⟨fun _ => rfl, fun _ => rfl⟩)

theorem isNaN_normalize (m e : Int) (s : Sign) : (normalize .binary32 m e s).isNaN = false := by
  rw [UnpackedFloat.normalize]
  split
  · exact isNaN_roundWithAccuracy _ _ _ _
  · rfl
  · exact isNaN_roundWithAccuracy _ _ _ _

variable {x y : Float32}

theorem isNaN_of_isFinite (finite : x.isFinite = true) : x.isNaN = false := by
  revert finite
  show x.toModel.unpack.isFinite = true → x.toModel.unpack.isNaN = false
  cases x.toModel.unpack with
  | notANumber | infinity =>
    intro finite
    cases finite
  | zero | finite => exact fun _ => rfl

/-- Only infinities of opposite signs have a sum that is not a number. -/
theorem isNaN_add (finite : x.isFinite = true) (number : y.isNaN = false) :
    (x + y).isNaN = false := by
  have sum {a b : UnpackedFloat} (fa : a.isFinite = true) (nb : b.isNaN = false) :
      (UnpackedFloat.add .binary32 a b).isNaN = false := by
    cases a with
    | notANumber | infinity => cases fa
    | zero s =>
      cases b with
      | notANumber => cases nb
      | infinity | finite => rfl
      | zero t =>
        obtain ⟨u, zeros⟩ := add_zeros s t
        rw [zeros]
        rfl
    | finite s m e hm =>
      cases b with
      | notANumber => cases nb
      | infinity | zero => rfl
      | finite t n f hn => exact isNaN_normalize _ _ _
  exact (isNaN_unpack_pack _).trans (sum finite number)

theorem isNaN_mul (hx : x.isFinite = true) (hy : y.isFinite = true) : (x * y).isNaN = false := by
  have product {a b : UnpackedFloat} (fa : a.isFinite = true) (fb : b.isFinite = true) :
      (UnpackedFloat.mul .binary32 a b).isNaN = false := by
    cases a with
    | notANumber | infinity => cases fa
    | zero s =>
      cases b with
      | notANumber | infinity => cases fb
      | zero | finite => rfl
    | finite s m e hm =>
      cases b with
      | notANumber | infinity => cases fb
      | zero => rfl
      | finite t n f hn => exact isNaN_roundWithAccuracy _ _ _ _
  exact (isNaN_unpack_pack _).trans (product hx hy)

theorem isNaN_sub (none : x.isNaN = true ∨ y.isNaN = true) : (x - y).isNaN = true := by
  have difference {a b : UnpackedFloat} (none : a.isNaN = true ∨ b.isNaN = true) :
      (UnpackedFloat.sub .binary32 a b).isNaN = true := by
    cases a with
    | notANumber => rfl
    | infinity | zero | finite =>
      cases b with
      | notANumber => rfl
      | infinity | zero | finite => exact (none.elim Bool.noConfusion Bool.noConfusion)
  exact (isNaN_unpack_pack _).trans (difference none)

end Float32
