/-!
# Readers

A reader takes characters from the front of a text, or fails. `Reader.many` repeats a reader for as
long as it succeeds; the number of rounds is bounded by the length of the text, which no reader that
takes at least one character can exceed.
-/

namespace Masquerade.Toml

/-- Takes a value from the front of a text, or fails. -/
abbrev Reader := StateT (List Char) Option

namespace Reader

variable {α : Type}

/-- One character with a property. -/
def satisfy (p : Char → Bool) : Reader Char
  | c :: rest => if p c then some (c, rest) else none
  | [] => none

/-- One given character. -/
def char (c : Char) : Reader Unit := do
  let _ ← satisfy (· == c)

/-- A given text. -/
def exactly (text : String) : Reader Unit := fun s =>
  let wanted := text.toList
  if wanted.isPrefixOf s then some ((), s.drop wanted.length) else none

/-- The longest run of characters with a property. -/
def takeWhile (p : Char → Bool) : Reader (List Char) := fun s => some (s.span p)

/-- The characters ahead, with nothing taken. -/
def ahead : Reader (List Char) := get

/-- Succeeds at the end of the text only. -/
def endOfText : Reader Unit
  | [] => some ((), [])
  | _ :: _ => none

/-- What `p` reads in at most `n` rounds. -/
def upTo (p : Reader α) : Nat → List Char → List α × List Char
  | 0, s => ([], s)
  | n + 1, s =>
    match p s with
    | some (a, rest) =>
      let (as, rest) := upTo p n rest
      (a :: as, rest)
    | none => ([], s)

/-- What `p` reads round after round, until it fails. -/
def many (p : Reader α) : Reader (List α) := fun s => some (upTo p s.length s)

/-- Like `many`, with at least one round. -/
def many1 (p : Reader α) : Reader (List α) := do
  let a ← p
  return a :: (← many p)

end Reader

end Masquerade.Toml
