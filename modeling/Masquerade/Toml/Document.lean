import Masquerade.Toml.Statement

/-!
# Documents

The statements of a document are put together to one table. The rules keep a table from being written
in two places: a header may name a table only once, keys of several parts may extend only tables that
such keys have made, and nothing can be added to a value. So each table remembers its `Origin`.
-/

namespace Masquerade.Toml

/-- How a table came to be. -/
inductive Origin where
  /-- By a header of its own, or as an inline table. -/
  | explicit
  /-- By a header with a longer path. -/
  | implied
  /-- By a key of several parts. -/
  | dotted
  deriving DecidableEq

/-- A part of a document that is being put together. -/
inductive Item where
  | value (v : Value)
  | table (origin : Origin) (entries : List (String × Item))
  /-- An array of tables, each with its entries. -/
  | tables (elements : List (List (String × Item)))

/-- The entries of a table that is being put together. -/
abbrev Draft := List (String × Item)

namespace Draft

/-- The draft with the item of a key replaced. -/
def replace (d : Draft) (key : String) (item : Item) : Draft :=
  d.map fun e => if e.1 = key then (key, item) else e

/-- Changes the table at the end of a path. Tables that are missing on the way are made with the origin
`made`; a path through an array of tables leads through its last table. -/
def alter {α : Type} (made : Origin) (change : Origin → Draft → Option (α × Draft)) :
    List String → Origin → Draft → Option (α × Draft)
  | [], origin, d => change origin d
  | key :: path, _, d =>
    match d.lookup key with
    | none => do
      let (a, inner) ← alter made change path made []
      return (a, d ++ [(key, .table made inner)])
    | some (.value _) => none
    | some (.tables elements) => do
      let (a, inner) ← alter made change path .explicit (← elements.getLast?)
      return (a, d.replace key (.tables (elements.dropLast ++ [inner])))
    | some (.table origin inner) => do
      if made = .dotted ∧ origin = .explicit then none
      let (a, inner) ← alter made change path origin inner
      return (a, d.replace key (.table origin inner))

/-- Enters a value under a key of one or several parts. The table at the end of a path has to be one
that such keys have made. -/
def enter (d : Draft) (key : KeyPath) (v : Value) : Option Draft := do
  let change (origin : Origin) (d : Draft) : Option (Unit × Draft) :=
    if decide (origin = .dotted) = key.path.isEmpty ∨ (d.lookup key.key).isSome then
      none
    else
      some ((), d ++ [(key.key, .value v)])
  let ((), d) ← alter .dotted change key.path .explicit d
  return d

/-- Opens the table that a header names: the entries it has already, and the draft without it. A table
that is there already can be opened only if headers with longer paths have made it. -/
def openTable (d : Draft) (key : KeyPath) : Option (Draft × Draft) :=
  let change (_ : Origin) (d : Draft) : Option (Draft × Draft) :=
    match d.lookup key.key with
    | none => some ([], d)
    | some (.table .implied inner) => some (inner, d.filter (·.1 != key.key))
    | some _ => none
  alter .implied change key.path .explicit d

/-- Closes a table, entering it where its header names. -/
def closeTable (d : Draft) (key : KeyPath) (inner : Draft) : Option Draft := do
  let change (_ : Origin) (d : Draft) : Option (Unit × Draft) :=
    match d.lookup key.key with
    | none => some ((), d ++ [(key.key, .table .explicit inner)])
    | some _ => none
  let ((), d) ← alter .implied change key.path .explicit d
  return d

/-- Whether the draft has an array of tables at a place, or nothing at all; makes the tables on the way
there. -/
def openElement (d : Draft) (key : KeyPath) : Option Draft := do
  let change (_ : Origin) (d : Draft) : Option (Unit × Draft) :=
    match d.lookup key.key with
    | none | some (.tables _) => some ((), d)
    | some _ => none
  let ((), d) ← alter .implied change key.path .explicit d
  return d

/-- Closes a table of an array, entering it at the end of the array. -/
def closeElement (d : Draft) (key : KeyPath) (inner : Draft) : Option Draft := do
  let change (_ : Origin) (d : Draft) : Option (Unit × Draft) :=
    match d.lookup key.key with
    | none => some ((), d ++ [(key.key, .tables [inner])])
    | some (.tables elements) => some ((), d.replace key.key (.tables (elements ++ [inner])))
    | some _ => none
  let ((), d) ← alter .implied change key.path .explicit d
  return d

end Draft

mutual

/-- The finished value of an item. -/
def Item.toValue : Item → Value
  | .value v => v
  | .table _ entries => .table (entriesToValues entries)
  | .tables elements => .array (elementsToValues elements)

/-- The finished values of the items of a table. -/
def entriesToValues : List (String × Item) → Entries
  | [] => []
  | (key, item) :: rest => (key, item.toValue) :: entriesToValues rest

/-- The finished tables of an array. -/
def elementsToValues : List (List (String × Item)) → List Value
  | [] => []
  | entries :: rest => .table (entriesToValues entries) :: elementsToValues rest

end

/-- An inline table from its entries. -/
def inlineTable? (entries : List (KeyPath × Value)) : Option Value := do
  let d ← entries.foldlM (fun (d : Draft) e => Draft.enter d e.1 e.2) []
  return .table (entriesToValues d)

/-- A value in which arrays and inline tables nest at most `depth` deep. -/
def value : Nat → Reader Value
  | 0 => scalar
  | depth + 1 =>
    scalar <|>
      (do return .array (← arrayOf (value depth))) <|>
      (do inlineTable? (← inlineEntriesOf (value depth)))

/-- The table that a header has opened, where it belongs and the rest of the document. -/
structure Assembly where
  document : Draft := []
  /-- The header of the open table and whether it is one of an array; nothing before the first. -/
  header : Option (KeyPath × Bool) := none
  current : Draft := []

namespace Assembly

/-- The document with the open table entered. -/
def close (a : Assembly) : Option Draft :=
  match a.header with
  | none => some a.current
  | some (key, false) => a.document.closeTable key a.current
  | some (key, true) => a.document.closeElement key a.current

/-- Takes in one statement. -/
def step (a : Assembly) : Statement → Option Assembly
  | .entry key v => do return { a with current := ← a.current.enter key v }
  | .header key => do
    let (current, document) ← (← a.close).openTable key
    return ⟨document, some (key, false), current⟩
  | .arrayHeader key => do
    let document ← (← a.close).openElement key
    return ⟨document, some (key, true), []⟩

end Assembly

/-- The entries of a document, or nothing if the text is not a document. -/
def parse? (text : String) : Option Entries := do
  let (parts, _) ← statements (value depthLimit) text.toList
  let a ← parts.foldlM Assembly.step {}
  return entriesToValues (← a.close)

end Masquerade.Toml
