/-!
# Instance numbers

Every owned copy of a material has an identity of its own. A session issues identities by serial
number; an identity from elsewhere is a 128-bit identifier in its usual hexadecimal text, with or
without hyphens.
-/

namespace Masquerade

/-- The identity of an owned copy of a material. -/
inductive InstanceId where
  /-- Issued here, with a serial number. -/
  | issued (serial : Nat)
  /-- Issued elsewhere, as a 128-bit identifier. -/
  | foreign (value : Nat)
  deriving DecidableEq

namespace InstanceId

/-- The value of a hexadecimal digit of either case. -/
def hexValue? (c : Char) : Option Nat :=
  if '0' ≤ c ∧ c ≤ '9' then
    some (c.toNat - '0'.toNat)
  else if 'a' ≤ c ∧ c ≤ 'f' then
    some (c.toNat - 'a'.toNat + 10)
  else if 'A' ≤ c ∧ c ≤ 'F' then
    some (c.toNat - 'A'.toNat + 10)
  else
    none

/-- The value of a text of hexadecimal digits. -/
def hexNumber? (cs : List Char) : Option Nat :=
  cs.foldlM (fun n c => (hexValue? c).map (16 * n + ·)) 0

/-- The digits of an identifier without its hyphens, which stand in four fixed places. -/
def ungrouped? (cs : List Char) : Option (List Char) :=
  let places := [8, 13, 18, 23]
  if cs.length = 32 then
    some cs
  else if cs.length = 36 ∧ places.all (fun i => cs[i]? = some '-') then
    some ((cs.zipIdx.filter fun c => !places.contains c.2).map (·.1))
  else
    none

/-- The identifier without the dress it may come in: braces around a grouped text, or a name space in
front of one, in capitals or not. -/
def undressed (cs : List Char) : List Char :=
  let urn := "urn:uuid:".toList
  if cs.length = 38 ∧ cs.head? = some '\x7b' ∧ cs.getLast? = some '\x7d' then
    (cs.drop 1).dropLast
  else if cs.length = 45 ∧ urn.isPrefixOf (cs.map Char.toLower) then
    cs.drop urn.length
  else
    cs

/-- Reads an identifier issued elsewhere. -/
def ofText? (text : String) : Option InstanceId := do
  let digits ← ungrouped? (undressed text.toList)
  let value ← hexNumber? digits
  return foreign value

/-- The number of the identity. -/
def number : InstanceId → Nat
  | issued serial => serial
  | foreign value => value

/-- The short form of an identity: its first eight hexadecimal digits. -/
def short (id : InstanceId) : String :=
  let digits := Nat.toDigits 16 id.number
  String.ofList ((List.replicate (32 - digits.length) '0' ++ digits).take 8)

end InstanceId

end Masquerade
