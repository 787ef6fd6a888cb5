import FleetCompliance.Text.Integer
import FleetCompliance.Yaml.Spot

/-!
# Tags and directives

A tag says what a node is. It is written out between angle brackets, or as a handle with a suffix,
where the handle stands for a longer text. Two handles have a meaning from the start; a directive in
front of the document can give them another, or introduce more. Another directive names the version
of the language.

In tags and directives an octet may be given as a percent sign and two hexadecimal digits. Such
octets have to come in sequences of the lengths that UTF-8 allows, and an octet zero ends the text.
-/

namespace FleetCompliance.Yaml

/-! ## Names and octets -/

/-- Whether a character may stand in the name of an anchor, a handle or a directive. -/
def isNameChar (c : Char) : Bool := c.isAlphanum || c == '_' || c == '-'

/-- The name that begins here, which may be empty, and what follows it. -/
def readName (spots : List Spot) : List Char × List Spot :=
  (charsOf (spots.takeWhile (isNameChar ·.char)), spots.dropWhile (isNameChar ·.char))

/-- Whether a character may stand in a tag. The marks of collections may only where the tag is
written out. -/
def isTagChar (writtenOut : Bool) (c : Char) : Bool :=
  isNameChar c || ";/?:@&=+$.%!~*'()".toList.contains c || (writtenOut && ",[]".toList.contains c)

/-- The octets of a text in which some are given by number. -/
def octets? : List Char → Option (List Nat)
  | [] => some []
  | '%' :: a :: b :: rest => do
    let octet := (← Text.hexValue? a) * 16 + (← Text.hexValue? b)
    return octet :: (← octets? rest)
  | c :: rest => do
    if c = '%' then none else return c.toNat :: (← octets? rest)

/-- The number of octets in a sequence, by the first of them. -/
def sequenceLength? (octet : Nat) : Option Nat :=
  if octet < 0x80 then some 1
  else if octet < 0xC0 then none
  else if octet < 0xE0 then some 2
  else if octet < 0xF0 then some 3
  else if octet < 0xF8 then some 4
  else none

/-- Whether octets make sequences of the right lengths; the one they start in lacks `missing`. -/
def areSequences (missing : Nat) : List Nat → Bool
  | [] => missing == 0
  | octet :: rest =>
    match missing with
    | left + 1 => octet / 0x40 == 2 && areSequences left rest
    | 0 =>
      match sequenceLength? octet with
      | some n => areSequences (n - 1) rest
      | none => false

/-- The text that the characters of a tag write, each octet as one character. -/
def tagText? (cs : List Char) : Option String := do
  let octets ← octets? cs
  if areSequences 0 octets then
    return String.ofList ((octets.takeWhile (· != 0)).map Char.ofNat)
  else none

/-- The text of a tag that begins here, and what follows it. `before` stands in front of it. -/
def readTagText? (writtenOut : Bool) (before : List Char) (spots : List Spot) :
    Option (String × List Spot) := do
  let written := before ++ charsOf (spots.takeWhile (isTagChar writtenOut ·.char))
  return (← tagText? written, spots.dropWhile (isTagChar writtenOut ·.char))

/-- A text of a tag that must not be empty. -/
def readSomeTagText? (writtenOut : Bool) (spots : List Spot) : Option (String × List Spot) :=
  if spots.head?.any (isTagChar writtenOut ·.char) then readTagText? writtenOut [] spots else none

/-! ## Tags -/

/-- A tag as it is written. -/
structure Tag where
  /-- What stands for a longer text; empty if the suffix is all. -/
  handle : String
  suffix : String
deriving DecidableEq, Repr

namespace Tag

/-- The tag that is a lone exclamation mark. -/
def lone : Tag := ⟨"", "!"⟩

/-- The tag between angle brackets. -/
def readWrittenOut? (spots : List Spot) : Option (Tag × List Spot) := do
  match ← readSomeTagText? true spots with
  | (suffix, s :: rest) => if s.char == '>' then some (⟨"", suffix⟩, rest) else none
  | _ => none

/-- A tag with a handle. A name belongs to the handle only if an exclamation mark follows it. -/
def readShort? (spots : List Spot) : Option (Tag × List Spot) := do
  let (name, rest) := readName spots
  match rest with
  | s :: more =>
    if s.char == '!' then
      let (suffix, rest) ← readSomeTagText? false more
      return (⟨String.ofList ('!' :: name ++ ['!']), suffix⟩, rest)
    else
      let (suffix, rest) ← readTagText? false name rest
      return (if suffix.isEmpty then lone else ⟨"!", suffix⟩, rest)
  | [] => return (if name.isEmpty then lone else ⟨"!", String.ofList name⟩, [])

/-- **The tag after an exclamation mark**, and what follows it. It must be a word. -/
def read? (inBraces : Bool) (spots : List Spot) : Option (Tag × List Spot) := do
  let (tag, rest) ←
    if spots.head?.any (·.char == '<') then readWrittenOut? (spots.drop 1) else readShort? spots
  if endsWord rest || (inBraces && rest.head?.any (·.char == ',')) then some (tag, rest) else none

/-- The handles that need no directive. -/
def knownHandles : List (String × String) := [("!", "!"), ("!!", "tag:yaml.org,2002:")]

/-- What a tag stands for, given the handles of the directives. The handle has to be known. -/
def resolve? (handles : List (String × String)) (t : Tag) : Option String :=
  if t.handle.isEmpty then some t.suffix
  else ((handles ++ knownHandles).lookup t.handle).map (· ++ t.suffix)

end Tag

/-- What stands for null. -/
def nullTag : String := "tag:yaml.org,2002:null"

/-- What stands for integers. -/
def intTag : String := "tag:yaml.org,2002:int"

/-! ## Directives -/

/-- A line in front of a document. -/
inductive Directive where
  /-- The version of the language, one that is known. -/
  | version
  /-- What a handle stands for. -/
  | handle (name meaning : String)
deriving DecidableEq, Repr

namespace Directive

/-- A number of at most nine digits, and what follows it. -/
def readNumber? (spots : List Spot) : Option (Nat × List Spot) :=
  let digits := charsOf (spots.takeWhile (·.char.isDigit))
  if 1 ≤ digits.length ∧ digits.length ≤ 9 then
    some (Text.digitsValue digits, spots.drop digits.length)
  else none

/-- The version, which is 1.1 or 1.2. -/
def readVersion? (spots : List Spot) : Option (Directive × List Spot) := do
  match ← readNumber? spots with
  | (major, s :: rest) =>
    let (minor, rest) ← readNumber? rest
    if s.char == '.' && major == 1 && (minor == 1 || minor == 2) then some (version, rest)
    else none
  | _ => none

/-- A handle: an exclamation mark, or a name between two of them. -/
def readHandle? : List Spot → Option (String × List Spot)
  | [] => none
  | s :: rest =>
    let (name, after) := readName rest
    if s.char != '!' then none
    else
      match after with
      | t :: more =>
        if t.char == '!' then some (String.ofList ('!' :: name ++ ['!']), more)
        else if name.isEmpty then some ("!", after)
        else none
      | [] => if name.isEmpty then some ("!", []) else none

/-- A handle and, as another word, what it stands for. -/
def readMeaning? (spots : List Spot) : Option (Directive × List Spot) := do
  let (name, rest) ← readHandle? spots
  if rest.head?.any Spot.isSpace then
    let (meaning, rest) ← readSomeTagText? true (skipSpaces rest)
    if endsWord rest then some (handle name meaning, rest) else none
  else none

/-- **The directive after a percent sign**, and the lines below it. -/
def read? (spots : List Spot) : Option (Directive × List Spot) := do
  let (name, rest) := readName spots
  if endsWord rest then
    let (directive, rest) ←
      match String.ofList name with
      | "YAML" => readVersion? (skipSpaces rest)
      | "TAG" => readMeaning? (skipSpaces rest)
      | _ => none
    return (directive, ← restOfLine? rest)
  else none

end Directive

end FleetCompliance.Yaml
