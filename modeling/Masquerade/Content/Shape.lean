import Masquerade.Side
import Masquerade.Single
import Masquerade.Toml.Value

/-!
# Shapes of values

Content is read from the values of a document by shape. A record is normally a table, whose further
keys are ignored; most records may also be an array of their fields in order (`Shape`). A choice
between named alternatives is normally a string. Whole numbers stand for quantities too. Every reader
answers with nothing when the value has another shape.
-/

namespace Masquerade.Content

open Toml (Value Entries)

/-! ## Scalars -/

/-- The entries of a table. A date or time counts as a table with one entry, which no record has a
field for. -/
def entries? : Value → Option Entries
  | .table entries => some entries
  | .dateTime text => some [("$datetime", .string text)]
  | _ => none

/-- A text. -/
def text? : Value → Option String
  | .string text => some text
  | _ => none

/-- A truth value. -/
def flag? : Value → Option Bool
  | .boolean b => some b
  | _ => none

/-- A quantity: a fraction rounded to binary32, or a whole number rounded to it once. -/
def quantity? : Value → Option Float32
  | .float x => some (.narrow x)
  | .integer n => some (.ofWhole n)
  | _ => none

/-- A whole number within bounds. -/
def integerWithin? (low high : Int) : Value → Option Int
  | .integer n => if low ≤ n ∧ n ≤ high then some n else none
  | _ => none

/-- A natural number of 32 bits. -/
def word? (v : Value) : Option UInt32 :=
  (integerWithin? 0 0xffffffff v).map fun n => UInt32.ofNat n.toNat

/-- A natural number of 64 bits. -/
def longWord? (v : Value) : Option UInt64 :=
  (integerWithin? 0 0xffffffffffffffff v).map fun n => UInt64.ofNat n.toNat

/-- A signed whole number of 32 bits. -/
def signedWord? (v : Value) : Option Int32 :=
  (integerWithin? (-0x80000000) 0x7fffffff v).map Int32.ofInt

/-- A list of values of one shape. -/
def list? {α : Type} (item? : Value → Option α) : Value → Option (List α)
  | .array items => items.mapM item?
  | _ => none

/-- Whether a value holds nothing: an empty table, or where `orArray` says so an empty array. -/
def isVoid (orArray : Bool) : Value → Bool
  | .table [] => true
  | .array [] => orArray
  | _ => false

/-- A choice: its name, or a table with the name as its only key and nothing in it. -/
def choice? (α : Type) [Named α] (orArray : Bool) : Value → Option α
  | .string name => Named.find? α name
  | .table [(name, v)] => if isVoid orArray v then Named.find? α name else none
  | _ => none

/-! ## Records -/

/-- A record, with its fields under names or in order. -/
inductive Shape where
  | named (entries : Entries)
  | listed (items : List Value)

namespace Shape

/-- The record that a value stands for. -/
def of? (v : Value) : Option Shape :=
  match v with
  | .array items => some (listed items)
  | v => (entries? v).map named

/-- The value of a field with its place in the order and its name. -/
def field? (s : Shape) (place : Nat) (name : String) : Option Value :=
  match s with
  | named entries => entries.lookup name
  | listed items => items[place]?

variable {α : Type}

/-- A field that has to be there. -/
def required (s : Shape) (place : Nat) (name : String) (read? : Value → Option α) : Option α :=
  (s.field? place name).bind read?

/-- A field that has a value even if it is not there. -/
def withDefault (s : Shape) (place : Nat) (name : String) (read? : Value → Option α) (a : α) :
    Option α :=
  match s.field? place name with
  | some v => read? v
  | none => some a

/-- A field that may be left out under names. In order, nothing can be left out before another
field. -/
def optional (s : Shape) (place : Nat) (name : String) (read? : Value → Option α) :
    Option (Option α) :=
  match s.field? place name with
  | some v => (read? v).map some
  | none =>
    match s with
    | named _ => some none
    | listed _ => none

end Shape

/-- A tagged record: the value of its field `kind`, which comes first in order, and the other fields. -/
def tagged? (v : Value) : Option (String × Shape) :=
  match v with
  | .array (.string kind :: items) => some (kind, .listed items)
  | .array _ => none
  | v => do
    let entries ← entries? v
    let kind ← (entries.lookup "kind").bind text?
    return (kind, .named (entries.filter fun e => e.1 != "kind"))

/-- Whether a record in order has no more than so many fields. Records by name may have others. -/
def Shape.fits (s : Shape) (count : Nat) : Bool :=
  match s with
  | .named _ => true
  | .listed items => items.length ≤ count

end Masquerade.Content
