/-!
# Rounding a quotient

A decimal text is chosen by rounding an exact quotient of natural numbers to a whole number of
decimal units. `roundDiv` rounds to the nearest one; which way an exact half goes is a parameter,
because the texts of the game differ in it.
-/

namespace Masquerade.Decimal

/-- The `n`-th power of ten. -/
def tenTo (n : Nat) : Nat := Nat.pow 10 n

/-- Which way an exact half is rounded. -/
inductive Tie where
  | even
  | up
  deriving DecidableEq

/-- Whether a number that lies `num / den` above the whole number `low` (with `num < den`) is rounded
up to the next one. -/
def Tie.roundsUp (tie : Tie) (low num den : Nat) : Bool :=
  if 2 * num = den then
    match tie with
    | .even => low % 2 == 1
    | .up => true
  else
    decide (den < 2 * num)

/-- The whole number nearest to `num / den`. -/
def roundDiv (tie : Tie) (num den : Nat) : Nat :=
  let low := num / den
  if tie.roundsUp low (num % den) den then low + 1 else low

/-- The position of the leading decimal digit of `num / den`: the `k` with
`10 ^ k ≤ num / den < 10 ^ (k + 1)`, for positive `num` and `den`. -/
def leadingPlace (num den : Nat) : Int :=
  if den ≤ num then
    ((Nat.toDigits 10 (num / den)).length : Int) - 1
  else
    -((Nat.toDigits 10 ((den - 1) / num)).length : Int)

end Masquerade.Decimal
