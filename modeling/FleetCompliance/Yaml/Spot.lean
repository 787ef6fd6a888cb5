/-!
# Characters of a YAML document, with their places

What a character of a document means depends on its place: an entry belongs to the mapping whose
column it stands in, a marker counts only at the start of a line, and a key has to end on the line
where it began. So a document is a list of `Spot`s, characters that know their line and column.

Line ends are made alike here. A carriage return, alone or before a line feed, and a next-line
character become a line feed; the separators of lines and of paragraphs end a line too but stay as
they are.
-/

namespace FleetCompliance.Yaml

/-- A character and where it stands, both counted from zero. -/
structure Spot where
  char : Char
  line : Nat
  column : Nat
deriving DecidableEq, Repr

/-- Whether a character may stand in a document at all. The control characters may not, apart from
tabs and line ends. -/
def isAllowed (c : Char) : Bool :=
  let n := c.toNat
  c == '\t' || c == '\n' || c == '\r' || (0x20 ≤ n && n ≤ 0x7E) || n == 0x85
    || (0xA0 ≤ n && n ≤ 0xFFFD) || 0x10000 ≤ n

/-- Whether a character separates words on a line. -/
def isSpace (c : Char) : Bool := c == ' ' || c == '\t'

/-- The line end that a character stands for, if it is one. -/
def lineEnd? (c : Char) : Option Char :=
  if c == '\n' || c == '\r' || c == '\u0085' then some '\n'
  else if c == '\u2028' || c == '\u2029' then some c
  else none

/-- Whether a character ends a line. -/
def isLineEnd (c : Char) : Bool := (lineEnd? c).isSome

/-- Places characters from a line and column on. A carriage return and the line feed after it are
one line end. -/
def locate (line column : Nat) : List Char → List Spot
  | [] => []
  | '\r' :: '\n' :: rest => ⟨'\n', line, column⟩ :: locate (line + 1) 0 rest
  | c :: rest =>
    match lineEnd? c with
    | some e => ⟨e, line, column⟩ :: locate (line + 1) 0 rest
    | none => ⟨c, line, column⟩ :: locate line (column + 1) rest

/-- **The characters of a document**, if all of them are allowed. -/
def spots? (s : String) : Option (List Spot) :=
  if s.toList.all isAllowed then some (locate 0 0 s.toList) else none

namespace Spot

/-- Whether a space or tab stands here. -/
def isSpace (s : Spot) : Bool := Yaml.isSpace s.char

/-- Whether the line ends here. -/
def isLineEnd (s : Spot) : Bool := Yaml.isLineEnd s.char

end Spot

/-- The characters of a list of spots. -/
def charsOf (spots : List Spot) : List Char := spots.map Spot.char

/-- Whether nothing, a space or a line end comes next. -/
def endsWord : List Spot → Bool
  | [] => true
  | s :: _ => s.isSpace || s.isLineEnd

/-- Whether nothing more stands on the line. -/
def endsLine : List Spot → Bool
  | [] => true
  | s :: _ => s.isLineEnd

/-- What follows spaces and tabs. -/
def skipSpaces (spots : List Spot) : List Spot := spots.dropWhile Spot.isSpace

/-- What follows the end of this line, if nothing but spaces and a comment stands before it. -/
def restOfLine? (spots : List Spot) : Option (List Spot) :=
  match skipSpaces spots with
  | [] => some []
  | s :: rest =>
    if s.isLineEnd then some rest
    else if s.char == '#' then some ((rest.dropWhile (!·.isLineEnd)).drop 1)
    else none

/-- Whether a line begins here with a marker: the same character three times, as a word. -/
def isMarker (c : Char) : List Spot → Bool
  | s₁ :: s₂ :: s₃ :: rest =>
    s₁.column == 0 && s₁.char == c && s₂.char == c && s₃.char == c && endsWord rest
  | _ => false

/-- Whether a document begins or ends here. -/
def isBoundary (spots : List Spot) : Bool := isMarker '-' spots || isMarker '.' spots

end FleetCompliance.Yaml
