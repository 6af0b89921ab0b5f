/-!
# JSON texts

The values of a JSON text and their layout over several lines: two spaces for each level, one element
per line, and nothing between the brackets of an empty array or object. Numbers are given by their
text.
-/

namespace Masquerade

/-- A JSON value. -/
inductive Json where
  | null
  | boolean (b : Bool)
  | number (text : String)
  | string (text : String)
  | array (items : List Json)
  | object (members : List (String × Json))

namespace Json

/-- A character of a string, with a backslash where JSON asks for one. -/
def escapedChar (c : Char) : List Char :=
  match c with
  | '"' => ['\\', '"']
  | '\\' => ['\\', '\\']
  | '\n' => ['\\', 'n']
  | '\r' => ['\\', 'r']
  | '\t' => ['\\', 't']
  | '\x08' => ['\\', 'b']
  | '\x0c' => ['\\', 'f']
  | c =>
    if c.toNat < 0x20 then
      ['\\', 'u', '0', '0', Nat.digitChar (c.toNat / 16), Nat.digitChar (c.toNat % 16)]
    else
      [c]

/-- A string in quotes. -/
def quoted (text : String) : String :=
  String.ofList ('"' :: text.toList.flatMap escapedChar ++ ['"'])

/-- A new line at a level. -/
def newline (level : Nat) : String :=
  String.ofList ('\n' :: List.replicate (2 * level) ' ')

/-- The layout of an array or object from the texts of its elements. -/
def block (opening closing : String) (level : Nat) (elements : List String) : String :=
  if elements.isEmpty then
    opening ++ closing
  else
    let separator := "," ++ newline (level + 1)
    opening ++ newline (level + 1) ++ separator.intercalate elements ++ newline level ++ closing

mutual

/-- The text of a value at a level. -/
def layout (level : Nat) : Json → String
  | null => "null"
  | boolean b => if b then "true" else "false"
  | number text => text
  | string text => quoted text
  | array items => block "[" "]" level (layoutItems (level + 1) items)
  | object members => block "\x7b" "\x7d" level (layoutMembers (level + 1) members)

/-- The texts of the items of an array. -/
def layoutItems (level : Nat) : List Json → List String
  | [] => []
  | item :: rest => layout level item :: layoutItems level rest

/-- The texts of the members of an object. -/
def layoutMembers (level : Nat) : List (String × Json) → List String
  | [] => []
  | (key, value) :: rest => (quoted key ++ ": " ++ layout level value) :: layoutMembers level rest

end

/-- The text of a value. -/
def pretty (j : Json) : String := layout 0 j

end Json

end Masquerade
