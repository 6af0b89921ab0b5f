import Masquerade.Decimal.Shortest

/-!
# Texts of numbers

The game writes a binary32 number in four ways: plainly and with a sign in its shortest digits
(`plain`, `signed`), in its shortest digits with an exponent far from one (`report`), and with a
fixed number of decimal places (`fixed`). What the ways have in common is positional writing of
`digits * 10 ^ exponent`; a `Style` holds the decisions in which the first three differ.
-/

open Float.Model

namespace Masquerade.Decimal

/-- The digits of a number in base ten, without leading zeros. -/
def digitText (n : Nat) : String :=
  String.ofList (Nat.toDigits 10 n)

/-- A text of at least `width` characters, filled with zeros in front. -/
def zeroFilled (width : Nat) (text : String) : String :=
  String.ofList (List.replicate (width - text.length) '0') ++ text

/-- `n / 10 ^ places` with exactly `places` decimal places, and no point when there are none. -/
def positional (n places : Nat) : String :=
  if places = 0 then
    digitText n
  else
    digitText (n / tenTo places) ++ "." ++ zeroFilled places (digitText (n % tenTo places))

/-- `d` without an exponent, written with no more places than it needs. -/
def Scaled.positional (d : Scaled) : String :=
  Decimal.positional (d.digits * tenTo d.exponent.toNat) (-d.exponent).toNat

/-- `d` without the zeros at the end of its digits. -/
def Scaled.trimmed (d : Scaled) : Scaled :=
  let zeros := ((Nat.toDigits 10 d.digits).reverse.takeWhile (· == '0')).length
  if d.digits = 0 then d else ⟨d.digits / tenTo zeros, d.exponent + zeros⟩

/-- `d` as one digit, its further digits after a point, and the power of ten with its sign. -/
def Scaled.exponential (d : Scaled) : String :=
  let text := digitText d.digits
  let power := d.exponent + (text.length - 1 : Nat)
  let mantissa :=
    match text.toList with
    | first :: second :: rest => String.ofList (first :: '.' :: second :: rest)
    | _ => text
  let sign := if power < 0 then "-" else "+"
  mantissa ++ "e" ++ sign ++ digitText power.natAbs

/-- The decisions of a notation in shortest digits. -/
structure Style where
  /-- A number that is not negative is written with a plus sign. -/
  plus : Bool
  /-- Which of two equally near shortest decimals is written. -/
  tie : Tie
  /-- A whole number is written with the decimal place `.0`. -/
  point : Bool
  /-- The least and the greatest power of ten of the leading digit written positionally, if there
  are bounds at all. -/
  positionalRange : Option (Int × Int)

/-- Numbers in running text: positional at any size. -/
def plainStyle : Style := ⟨false, .up, false, none⟩

/-- Changes in running text: like plain numbers, with the sign always written. -/
def signedStyle : Style := ⟨true, .up, false, none⟩

/-- Numbers in a report: at least one decimal place, and an exponent from `1e+13` upwards and below
`1e-6`. -/
def reportStyle : Style := ⟨false, .even, true, some (-6, 12)⟩

/-- The sign written in front of a number. -/
def signText (plus : Bool) : UnpackedFloat.Sign → String
  | .negative => "-"
  | .positive => if plus then "+" else ""

/-- The positive number `d` in the given style. -/
def Style.magnitude (style : Style) (d : Scaled) : String :=
  let d := d.trimmed
  let lead := d.exponent + ((digitText d.digits).length - 1 : Nat)
  let positional := d.positional ++ (if style.point && decide (0 ≤ d.exponent) then ".0" else "")
  match style.positionalRange with
  | none => positional
  | some (least, greatest) =>
    if least ≤ lead ∧ lead ≤ greatest then positional else d.exponential

/-- The text of a number in its shortest digits. -/
def Style.write (style : Style) (x : Float32) : String :=
  match x.toModel.unpack with
  | .notANumber => "NaN"
  | .infinity s => signText style.plus s ++ "inf"
  | .zero s => signText style.plus s ++ (if style.point then "0.0" else "0")
  | .finite s m e _ => signText style.plus s ++ style.magnitude (shortest style.tie m e)

/-- A number as running text shows it. -/
def plain (x : Float32) : String := plainStyle.write x

/-- A change as running text shows it. -/
def signed (x : Float32) : String := signedStyle.write x

/-- A number as a report shows it; the report has no text for numbers that are not finite. -/
def report? (x : Float32) : Option String :=
  if x.isFinite then some (reportStyle.write x) else none

/-- The text of `x` rounded to `places` decimal places, with the sign of a number that is not
negative written if `plus` says so. The exact binary value is rounded, and a half goes to the even
neighbour. -/
def fixedWith (plus : Bool) (places : Nat) (x : Float32) : String :=
  match x.toModel.unpack with
  | .notANumber => "NaN"
  | .infinity s => signText plus s ++ "inf"
  | .zero s => signText plus s ++ positional 0 places
  | .finite s m e _ =>
    let (num, den) := binaryFraction m e
    signText plus s ++ positional (roundDiv .even (num * tenTo places) den) places

/-- The text of `x` rounded to `places` decimal places. -/
def fixed (places : Nat) (x : Float32) : String := fixedWith false places x

end Masquerade.Decimal
