/-!
# Single-precision quantities

Every quantity of the game is a binary32 number, and every operation on it rounds once. The core
type supplies the arithmetic and the comparisons. This module adds the two bounds that keep a stat
in its domain, and the exact passages between binary32 and other numbers: a scaled whole number
(`ofScaled`), a binary64 number (`narrow`) and a whole number of fixed width (`roundToInt32`).
-/

open Float.Model

namespace Float32

/-! ## Bounds -/

/-- The larger of `x` and `lo`. A NaN counts as lying below the bound, so the result is a NaN only
if the bound is one; of two equal zeros the bound wins. -/
def atLeast (x lo : Float32) : Float32 :=
  if lo < x then x else lo

/-- The point of `[lo, hi]` next to `x`. A NaN stays a NaN and a zero keeps its sign. -/
def within (x lo hi : Float32) : Float32 :=
  let y := if x < lo then lo else x
  if hi < y then hi else y

/-! ## Passages from other numbers -/

/-- The binary32 number nearest to `± m * 2 ^ e`, a tie going to the even neighbour. -/
def ofScaled (negative : Bool) (m : Nat) (e : Int) : Float32 :=
  let sign : UnpackedFloat.Sign := if negative then .negative else .positive
  .ofModel (.pack (UnpackedFloat.round .binary32 sign m e))

/-- The binary32 number nearest to a whole number. -/
def ofWhole (i : Int) : Float32 :=
  ofScaled (i < 0) i.natAbs 0

/-- The binary32 number nearest to a binary64 number. -/
def narrow (x : Float) : Float32 :=
  match x.toModel.unpack with
  | .notANumber => .ofModel (.pack .notANumber)
  | .infinity s => .ofModel (.pack (.infinity s))
  | .zero s => .ofModel (.pack (.zero s))
  | .finite s m e _ => ofScaled (s == .negative) m e

/-- The quiet NaN. -/
def notANumber : Float32 := .ofModel (.pack .notANumber)

/-- Infinity with the given sign. -/
def infinity (negative : Bool) : Float32 :=
  .ofModel (.pack (.infinity (if negative then .negative else .positive)))

/-! ## Passage to whole numbers -/

/-- The whole number nearest to `m * 2 ^ e`, a half going up. -/
def roundScaled (m : Nat) (e : Int) : Nat :=
  let unit := 1 <<< (-e).toNat
  (2 * (m <<< e.toNat) + unit) / (2 * unit)

/-- The 32-bit whole number nearest to `x`, a half going away from zero. Numbers out of range give
the end of the range on their side, and a NaN gives zero. -/
def roundToInt32 (x : Float32) : Int32 :=
  match x.toModel.unpack with
  | .notANumber => 0
  | .zero _ => 0
  | .infinity .positive => Int32.maxValue
  | .infinity .negative => Int32.minValue
  | .finite .positive m e _ => Int32.ofIntClamp (roundScaled m e)
  | .finite .negative m e _ => Int32.ofIntClamp (-(roundScaled m e : Int))

end Float32

namespace Int32

/-- The sum, held at the ends of the range. -/
def addSaturating (a b : Int32) : Int32 :=
  Int32.ofIntClamp (a.toInt + b.toInt)

/-- The number as a binary32 number, rounded once. -/
def toSingle (a : Int32) : Float32 :=
  Float32.ofWhole a.toInt

end Int32

namespace UInt32

/-- The sum, held at the upper end of the range. -/
def addSaturating (a b : UInt32) : UInt32 :=
  if a.toNat + b.toNat < UInt32.size then a + b else 0xffffffff

/-- The number as a binary32 number, rounded once. -/
def toSingle (a : UInt32) : Float32 :=
  Float32.ofWhole a.toNat

end UInt32
