/-!
# Numerals

Whole numbers as they are typed: decimal digits, at least one, perhaps with a sign in front.
-/

namespace Masquerade.Text

/-- The value of a row of decimal digits. -/
def digits? (cs : List Char) : Option Nat :=
  if cs.isEmpty || !cs.all Char.isDigit then
    none
  else
    some (cs.foldl (fun n c => 10 * n + (c.toNat - '0'.toNat)) 0)

/-- A natural number, perhaps with a plus sign. -/
def natural? (text : String) : Option Nat :=
  match text.toList with
  | '+' :: cs => digits? cs
  | cs => digits? cs

/-- A whole number, perhaps with a sign. -/
def integer? (text : String) : Option Int :=
  match text.toList with
  | '-' :: cs => (digits? cs).map fun n => -(n : Int)
  | _ => (natural? text).map fun n => (n : Int)

end Masquerade.Text
