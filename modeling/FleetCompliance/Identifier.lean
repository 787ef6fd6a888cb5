import FleetCompliance.Text.Integer
import FleetCompliance.Json.Basic

/-!
# Identifiers

Policies, rules, geographies, devices, providers and snapshots are all named by numbers of 128 bits.
The type of an identifier says what it names, so one kind cannot stand where another is meant.

An identifier has one printed form, five groups of lower-case hexadecimal digits, and several
accepted ones. Identifiers are ordered as numbers, which is the order of their printed forms.
-/

namespace FleetCompliance

/-- What an identifier names. -/
inductive Entity where
  | policy
  | rule
  | geography
  | device
  | provider
  | snapshot
deriving DecidableEq, Repr

/-- An identifier of one kind of entity. -/
structure Identifier (e : Entity) where
  value : Nat
  isLt : value < 0x100000000000000000000000000000000
deriving DecidableEq, Repr

namespace Identifier

variable {e : Entity}

/-- Identifiers are ordered as numbers. -/
instance : LE (Identifier e) := ⟨fun a b => a.value ≤ b.value⟩

instance : DecidableLE (Identifier e) := fun a b => inferInstanceAs (Decidable (a.value ≤ b.value))

/-- Identifiers are ordered as numbers. -/
instance : LT (Identifier e) := ⟨fun a b => a.value < b.value⟩

instance : DecidableLT (Identifier e) := fun a b => inferInstanceAs (Decidable (a.value < b.value))

/-- Cuts a list into groups of the given lengths, with a hyphen between two groups. -/
def hyphenate : List Nat → List Char → List Char
  | [], cs => cs
  | [_], cs => cs
  | n :: rest, cs => cs.take n ++ '-' :: hyphenate rest (cs.drop n)

/-- Takes the hyphens out again, if they stand exactly between groups of the given lengths. -/
def unhyphenate? : List Nat → List Char → Option (List Char)
  | [], cs => if cs.isEmpty then some [] else none
  | [n], cs => if cs.length = n then some cs else none
  | n :: rest, cs =>
    match cs.drop n with
    | '-' :: more => (unhyphenate? rest more).map (cs.take n ++ ·)
    | _ => none

/-- The lengths of the five groups. -/
def groups : List Nat := [8, 4, 4, 4, 12]

/-- The printed characters: 32 digits in five groups. -/
def chars (i : Identifier e) : List Char := hyphenate groups (Text.hexDigits 32 i.value)

/-- The printed form. -/
def text (i : Identifier e) : String := String.ofList i.chars

/-- The identifier that 32 hexadecimal digits write. -/
def ofDigits? (cs : List Char) : Option (Identifier e) :=
  if cs.length = 32 then do
    let n ← Text.ofHexDigits? 0 cs
    if h : n < 0x100000000000000000000000000000000 then some ⟨n, h⟩ else none
  else none

/-- The digits of an identifier written in groups. -/
def ofGroups? (cs : List Char) : Option (Identifier e) := do ofDigits? (← unhyphenate? groups cs)

/-- What may stand in front of the five groups, in letters of either case. -/
def scheme : List Char := "urn:uuid:".toList

/-- **The accepted forms**: 32 digits in one piece; five groups; five groups in braces; five groups
after the scheme. The digits may be of either case. -/
def ofChars? (cs : List Char) : Option (Identifier e) :=
  match cs with
  | '\x7b' :: rest => if rest.getLast? = some '\x7d' then ofGroups? rest.dropLast else none
  | _ =>
    if (cs.take scheme.length).map Char.toLower = scheme then ofGroups? (cs.drop scheme.length)
    else if cs.length = 32 then ofDigits? cs
    else ofGroups? cs

/-- The identifier that a text writes. -/
def parse? (s : String) : Option (Identifier e) := ofChars? s.toList

/-- The identifier made of 128 random bits: six of them give way to the mark of a random
identifier. -/
def ofRandom (bits : Nat) : Identifier e :=
  let high := bits / 0x100000000000000000000 % 0x1000000000000
  let middle := bits / 0x10000000000000000 % 0x1000
  let low := bits % 0x4000000000000000
  ⟨high * 0x100000000000000000000 + (0x4000 + middle) * 0x10000000000000000
    + (0x8000000000000000 + low), by omega⟩

/-- The identifier in a JSON string. -/
def ofJson? (j : Json) : Option (Identifier e) := do parse? (← j.text?)

/-- An identifier as a JSON string, in its printed form. -/
def toJson (i : Identifier e) : Json := .str i.text

end Identifier

end FleetCompliance
