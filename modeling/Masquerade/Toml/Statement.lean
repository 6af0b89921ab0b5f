import Masquerade.Toml.Scalar

/-!
# Statements of a document

A document is a list of lines, each empty or with one statement: an entry of the table that is being
written, the header of a table, or the header of a further table in an array of tables. A key may be
a path through nested tables. Arrays and inline tables nest to a bounded depth, which is what the
reader of values recurses on.
-/

namespace Masquerade.Toml

open Reader

/-- A key of several parts: the path to a table and the key in it. -/
structure KeyPath where
  path : List String
  key : String

/-- How deep arrays and inline tables may nest, and how many parts a key may have. -/
def depthLimit : Nat := 79

/-- One part of a key. -/
def simpleKey : Reader String :=
  let isBare (c : Char) : Bool := c.isAlphanum || c == '_' || c == '-'
  (do return String.ofList (← many1 (satisfy isBare))) <|> basicString <|> literalString

/-- A key, its parts separated by points. -/
def keyPath : Reader KeyPath := do
  let first ← simpleKey
  let rest ← many do
    blanks
    char '.'
    blanks
    simpleKey
  let parts := first :: rest
  if parts.length ≤ depthLimit then
    return ⟨parts.dropLast, parts.getLastD first⟩
  else
    failure

/-- A key, an equals sign and a value. -/
def entryOf {α : Type} (element : Reader α) : Reader (KeyPath × α) := do
  let key ← keyPath
  blanks
  char '='
  blanks
  return (key, ← element)

/-- Elements between brackets, separated by commas, perhaps with one more comma at the end. -/
def arrayOf {α : Type} (element : Reader α) : Reader (List α) := do
  char '['
  gap
  let first ← optional element
  gap
  let items ←
    match first with
    | none => pure []
    | some first => do
      let rest ← many do
        char ','
        gap
        let item ← element
        gap
        return item
      let _ ← optional (char ',')
      pure (first :: rest)
  gap
  char ']'
  return items

/-- Entries between braces in one line, separated by commas. -/
def inlineEntriesOf {α : Type} (element : Reader α) : Reader (List (KeyPath × α)) := do
  char '\x7b'
  blanks
  let first ← optional (entryOf element)
  blanks
  let items ←
    match first with
    | none => pure []
    | some first => do
      let rest ← many do
        char ','
        blanks
        let item ← entryOf element
        blanks
        return item
      pure (first :: rest)
  char '\x7d'
  return items

/-- A statement of a document. -/
inductive Statement where
  | entry (key : KeyPath) (value : Value)
  | header (key : KeyPath)
  | arrayHeader (key : KeyPath)

/-- The header of a table or of a table in an array. -/
def headerStatement : Reader Statement :=
  (do
    exactly "[["
    blanks
    let key ← keyPath
    blanks
    exactly "]]"
    return .arrayHeader key) <|>
  (do
    char '['
    blanks
    let key ← keyPath
    blanks
    char ']'
    return .header key)

/-- A line with at most one statement, up to the end of the line or of the text. -/
def line (value : Reader Value) : Reader (Option Statement) := do
  blanks
  let statement ← optional
    (headerStatement <|> (do
      let (key, v) ← entryOf value
      return .entry key v))
  blanks
  let _ ← optional comment
  return statement

/-- The statements of a document. -/
def statements (value : Reader Value) : Reader (List Statement) := do
  let _ ← optional (char '\ufeff')
  let first ← line value
  let rest ← many do
    newline
    line value
  endOfText
  return (first :: rest).filterMap id

end Masquerade.Toml
