/-!
# Document values

The values of a document in the configuration format TOML. A table is a list of entries with distinct
keys. A date or time is kept as its text, since nothing computes with it.
-/

namespace Masquerade.Toml

/-- A value of a document. -/
inductive Value where
  | string (text : String)
  | integer (n : Int)
  | float (x : Float)
  | boolean (b : Bool)
  | dateTime (text : String)
  | array (items : List Value)
  | table (entries : List (String × Value))

/-- The entries of a table, each a key and its value. -/
abbrev Entries := List (String × Value)

end Masquerade.Toml
