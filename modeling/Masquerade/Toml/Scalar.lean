import Masquerade.Toml.Reader
import Masquerade.Toml.Value

/-!
# Scalars of a document

Strings in their four forms, numbers, truth values, and dates and times. A whole number has to fit in
64 bits. A fraction is read as the nearest binary64 number; one that is too large for any is refused,
unless it is negative.
-/

namespace Masquerade.Toml

open Reader

/-! ## Characters -/

/-- A space or a tab. -/
def isBlank (c : Char) : Bool := c == ' ' || c == '\t'

/-- A character that may stand in a text as itself: anything but control characters, with the
exception of the tab. -/
def isTextual (c : Char) : Bool := c == '\t' || (0x20 ≤ c.toNat && c.toNat != 0x7f)

/-- The value of a hexadecimal digit of either case, and sixteen for any other character. -/
def digitValue (c : Char) : Nat :=
  let lower := c.toLower
  if c.isDigit then
    c.toNat - '0'.toNat
  else if 'a' ≤ lower ∧ lower ≤ 'f' then
    lower.toNat - 'a'.toNat + 10
  else
    16

/-- Whether the character is a digit of a base of at most sixteen. -/
def isDigitOf (base : Nat) (c : Char) : Bool := digitValue c < base

/-- The value of a row of digits. -/
def digitsValue (base : Nat) (digits : List Char) : Nat :=
  digits.foldl (fun n c => base * n + digitValue c) 0

/-- Blanks within a line. -/
def blanks : Reader Unit := do
  let _ ← takeWhile isBlank

/-- The end of a line. -/
def newline : Reader Unit := exactly "\n" <|> exactly "\r\n"

/-- A remark up to the end of the line. -/
def comment : Reader Unit := do
  char '#'
  let _ ← takeWhile isTextual

/-- Blanks, ends of lines and remarks. -/
def gap : Reader Unit := do
  let _ ← many ((do let _ ← satisfy isBlank) <|> newline <|> comment)

/-! ## Strings -/

/-- A code point in a fixed number of hexadecimal digits. -/
def codePoint (digits : Nat) : Reader Char := do
  let cs ← (List.range digits).mapM fun _ => satisfy (isDigitOf 16)
  let n := digitsValue 16 cs
  if n.isValidChar then return Char.ofNat n else failure

/-- A character written with a backslash. -/
def escaped : Reader Char := do
  char '\\'
  match ← satisfy fun _ => true with
  | 'b' => return '\x08'
  | 't' => return '\t'
  | 'n' => return '\n'
  | 'f' => return '\x0c'
  | 'r' => return '\r'
  | '"' => return '"'
  | '\\' => return '\\'
  | 'u' => codePoint 4
  | 'U' => codePoint 8
  | _ => failure

/-- A run of characters that stand for themselves, at least one. -/
def plainRun (p : Char → Bool) : Reader (List Char) := do
  let c ← satisfy p
  return c :: (← takeWhile p)

/-- A string in double quotes. -/
def basicString : Reader String := do
  char '"'
  let plain := plainRun fun c => isTextual c && c != '"' && c != '\\'
  let parts ← many (plain <|> (do return [← escaped]))
  char '"'
  return String.ofList parts.flatten

/-- A string in single quotes. -/
def literalString : Reader String := do
  char '\''
  let cs ← takeWhile fun c => isTextual c && c != '\''
  char '\''
  return String.ofList cs

/-- An end of line within a string, which is always kept as a line feed. -/
def keptNewline : Reader (List Char) := do
  newline
  return ['\n']

/-- A backslash at the end of a line, which takes all white space up to the next other character. -/
def joinedLines : Reader (List Char) := do
  char '\\'
  blanks
  newline
  let _ ← many ((do let _ ← satisfy isBlank) <|> newline)
  return []

/-- One or two quotes that do not end a string of several lines. -/
def innerQuotes (quote : Char) : Reader (List Char) := do
  let quotes ← takeWhile (· == quote)
  if quotes.length = 1 ∨ quotes.length = 2 then return quotes else failure

/-- The three quotes that end a string of several lines; up to two more before them belong to the
string. -/
def closingQuotes (quote : Char) : Reader (List Char) := do
  let quotes := (← ahead).takeWhile (· == quote)
  let taken := min quotes.length 5
  if taken < 3 then failure
  set ((← ahead).drop taken)
  return quotes.take (taken - 3)

/-- A string of several lines between three quotes, made of the given parts. -/
def multilineString (quote : Char) (part : Reader (List Char)) : Reader String := do
  exactly (String.ofList [quote, quote, quote])
  let _ ← optional newline
  let parts ← many (part <|> keptNewline <|> innerQuotes quote)
  let tail ← closingQuotes quote
  return String.ofList (parts.flatten ++ tail)

/-- A string of several lines in double quotes. -/
def multilineBasicString : Reader String :=
  let plain := plainRun fun c => isTextual c && c != '"' && c != '\\'
  multilineString '"' (plain <|> (do return [← escaped]) <|> joinedLines)

/-- A string of several lines in single quotes. -/
def multilineLiteralString : Reader String :=
  multilineString '\'' (plainRun fun c => isTextual c && c != '\'')

/-- A string in any of the four forms. -/
def anyString : Reader String := do
  let opening := (← ahead).take 3
  if opening = ['"', '"', '"'] then
    multilineBasicString
  else if opening = ['\'', '\'', '\''] then
    multilineLiteralString
  else
    basicString <|> literalString

/-! ## Numbers -/

/-- A row of digits, in which single underscores may stand between digits. -/
def digitRow (base : Nat) : Reader (List Char) := do
  let first ← satisfy (isDigitOf base)
  let rest ← many do
    let _ ← optional (char '_')
    satisfy (isDigitOf base)
  return first :: rest

/-- The digits of a whole number in base ten, without needless zeros in front. -/
def wholeDigits : Reader (List Char) := do
  match (← ahead).head? with
  | some '0' =>
    char '0'
    return ['0']
  | _ => digitRow 10

/-- A sign: whether it is a minus. -/
def sign : Reader Bool :=
  (do char '-'; return true) <|> (do char '+'; return false)

/-- A whole number, if it fits in 64 bits. -/
def boundedInteger (n : Int) : Reader Value :=
  if Int64.minValue.toInt ≤ n ∧ n ≤ Int64.maxValue.toInt then return .integer n else failure

/-- A whole number in base two, eight or sixteen, marked by a letter. -/
def radixInteger : Reader Value := do
  char '0'
  let base ← (do char 'x'; return 16) <|> (do char 'o'; return 8) <|> (do char 'b'; return 2)
  boundedInteger (digitsValue base (← digitRow base))

/-- The digits after a point. -/
def fractionDigits : Reader (List Char) := do
  char '.'
  digitRow 10

/-- The power of ten after an `e`. -/
def power : Reader Int := do
  let _ ← satisfy fun c => c == 'e' || c == 'E'
  let negative := (← optional sign).getD false
  let n := digitsValue 10 (← digitRow 10)
  return if negative then -n else n

/-- The binary64 number nearest to `n * 10 ^ e`. -/
def decimalFloat (n : Nat) (e : Int) : Float :=
  Float.ofScientific n (e < 0) e.natAbs

/-- A number in base ten: a whole number, or a fraction if a point or a power of ten follows. -/
def decimalNumber : Reader Value := do
  let negative := (← optional sign).getD false
  let whole ← wholeDigits
  let fraction ← optional fractionDigits
  let exponent ← optional power
  match fraction, exponent with
  | none, none =>
    let n : Int := digitsValue 10 whole
    boundedInteger (if negative then -n else n)
  | _, _ =>
    let places := fraction.getD []
    let x := decimalFloat (digitsValue 10 (whole ++ places)) (exponent.getD 0 - places.length)
    if negative then
      return .float (-x)
    else if x.isInf then
      failure
    else
      return .float x

/-- Infinity or a NaN, with or without a sign. -/
def specialFloat : Reader Value := do
  let negative := (← optional sign).getD false
  let infinite := 1.0 / 0.0
  let x ← (do exactly "inf"; return infinite) <|> (do exactly "nan"; return infinite - infinite)
  return .float (if negative then -x else x)

/-! ## Dates and times -/

/-- A number of exactly so many digits, within bounds. -/
def fixedNumber (width low high : Nat) : Reader (Nat × List Char) := do
  let cs ← (List.range width).mapM fun _ => satisfy (isDigitOf 10)
  let n := digitsValue 10 cs
  if low ≤ n ∧ n ≤ high then return (n, cs) else failure

/-- The number of days of a month. -/
def daysIn (year month : Nat) : Nat :=
  let leap := year % 4 == 0 && (year % 100 != 0 || year % 400 == 0)
  if month = 2 then
    if leap then 29 else 28
  else if month ∈ [4, 6, 9, 11] then
    30
  else
    31

/-- A date. -/
def date : Reader (List Char) := do
  let (year, yearText) ← fixedNumber 4 0 9999
  char '-'
  let (month, monthText) ← fixedNumber 2 1 12
  char '-'
  let (_, dayText) ← fixedNumber 2 1 (daysIn year month)
  return yearText ++ ['-'] ++ monthText ++ ['-'] ++ dayText

/-- A time of day with seconds and perhaps fractions of them. -/
def time : Reader (List Char) := do
  let (_, hour) ← fixedNumber 2 0 23
  char ':'
  let (_, minute) ← fixedNumber 2 0 59
  char ':'
  let (_, second) ← fixedNumber 2 0 60
  let fraction ← optional do
    char '.'
    many1 (satisfy (isDigitOf 10))
  let tail := (fraction.map ('.' :: ·)).getD []
  return hour ++ [':'] ++ minute ++ [':'] ++ second ++ tail

/-- A distance from universal time. -/
def offset : Reader (List Char) :=
  (do let _ ← satisfy fun c => c == 'Z' || c == 'z'; return ['Z']) <|>
    (do
      let negative ← sign
      let (_, hour) ← fixedNumber 2 0 23
      char ':'
      let (_, minute) ← fixedNumber 2 0 59
      return (if negative then '-' else '+') :: hour ++ [':'] ++ minute)

/-- A date, a date with a time, or a time alone. -/
def dateTime : Reader Value := do
  let dated : Reader (List Char) := do
    let day ← date
    let rest ← optional do
      let _ ← satisfy fun c => c == 'T' || c == 't' || c == ' '
      let clock ← time
      let zone ← optional offset
      return 'T' :: clock ++ zone.getD []
    return day ++ rest.getD []
  return .dateTime (String.ofList (← dated <|> time))

/-- A value that is neither an array nor a table. -/
def scalar : Reader Value :=
  (do return .string (← anyString)) <|>
    (do exactly "true"; return .boolean true) <|>
    (do exactly "false"; return .boolean false) <|>
    dateTime <|> specialFloat <|> radixInteger <|> decimalNumber

end Masquerade.Toml
