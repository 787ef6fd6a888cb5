import FleetCompliance.Yaml.Scalar.Basic
import FleetCompliance.Yaml.Spot

/-!
# Block scalars

A block scalar is written line by line below a bar or a greater-than sign. Its lines are indented by
one margin, which the header gives or else the first line that is not empty. Further spaces belong
to the text. The header also says what becomes of the line ends after the last line.
-/

namespace FleetCompliance.Yaml

/-- What becomes of the line ends after the last line. -/
inductive Chomping where
  /-- All of them are left out. -/
  | strip
  /-- One of them is kept. -/
  | clip
  /-- All of them are kept. -/
  | keep
deriving DecidableEq, Repr

/-- What stands after the sign of a block scalar. -/
structure BlockHeader where
  chomping : Chomping
  /-- The number of spaces that the lines are indented by, if it is given. -/
  indentation : Option Nat
deriving DecidableEq, Repr

/-- The chomping that a sign stands for. -/
def chomping? (s : Spot) : Option Chomping :=
  if s.char == '+' then some .keep else if s.char == '-' then some .strip else none

/-- The indentation that a digit stands for, which is never zero. -/
def indentation? (s : Spot) : Option Nat :=
  if s.char.isDigit && s.char != '0' then some (s.char.toNat - '0'.toNat) else none

/-- The header that marks make, a sign and a digit in either order. -/
def headerOf? : List Spot → Option BlockHeader
  | [] => some ⟨.clip, none⟩
  | [a] =>
    match chomping? a with
    | some c => some ⟨c, none⟩
    | none => some ⟨.clip, indentation? a⟩
  | [a, b] =>
    match chomping? a, chomping? b with
    | some c, none => some ⟨c, indentation? b⟩
    | none, some c => some ⟨c, indentation? a⟩
    | _, _ => none
  | _ => none

/-- Whether a mark of a header stands here. -/
def isHeaderMark (s : Spot) : Bool := (chomping? s).isSome || (indentation? s).isSome

/-- The header of a block scalar, and the lines below it. -/
def blockHeader? (spots : List Spot) : Option (BlockHeader × List Spot) := do
  let header ← headerOf? (spots.takeWhile isHeaderMark)
  return (header, ← restOfLine? (spots.dropWhile isHeaderMark))

/-- A block scalar as far as it has been read. Texts are kept newest first. -/
structure Block where
  isFolded : Bool
  /-- The column of the lines, once it is known. -/
  margin : Option Nat
  /-- The column that the margin has to reach at least. -/
  least : Nat
  /-- The lines so far, without the last line end. -/
  text : List Char
  /-- The end of the last line. -/
  last : List Char
  /-- The ends of the empty lines after it. -/
  empty : List Char
  /-- Whether the last line begins with a space. -/
  isIndented : Bool
  /-- Whether the next character belongs to a line that has begun. -/
  inLine : Bool

namespace Block

/-- The margin at a line that is not empty. -/
def marginAt (b : Block) (s : Spot) : Nat := b.margin.getD (max b.least s.column)

/-- Whether the margin lies to the right of this spot, as far as is known. -/
def isBefore (b : Block) (s : Spot) : Bool := b.margin.all (s.column < ·)

/-- What the end of the last line comes to before another line. -/
def joint (b : Block) (s : Spot) : List Char :=
  if b.isFolded && b.last == ['\n'] && !b.isIndented && !s.isSpace then
    if b.empty.isEmpty then [' '] else []
  else b.last

/-- A line that begins here. -/
def beginLine (b : Block) (s : Spot) : Block :=
  { b with
    margin := some s.column
    text := s.char :: (b.empty ++ b.joint s ++ b.text)
    last := [], empty := [], isIndented := s.isSpace, inLine := true }

/-- The text, once the line ends after it have been dealt with. -/
def close (b : Block) (chomping : Chomping) : List Char :=
  match chomping with
  | .strip => b.text.reverse
  | .clip => (b.last ++ b.text).reverse
  | .keep => (b.empty ++ b.last ++ b.text).reverse

/-- **Reads on in a block scalar**, up to a line that is not indented enough, and gives what follows
it. A tab must not stand in for indentation. -/
def read (b : Block) : List Spot → Option (Block × List Spot)
  | [] => some (b, [])
  | s :: rest =>
    if b.inLine then
      if s.isLineEnd then read { b with last := [s.char], inLine := false } rest
      else read { b with text := s.char :: b.text } rest
    else if b.isBefore s && s.char == ' ' then read b rest
    else if b.isBefore s && s.char == '\t' then none
    else if s.isLineEnd then
      read { b with empty := s.char :: b.empty, least := max b.least s.column } rest
    else if s.column == b.marginAt s then read (b.beginLine s) rest
    else some (b, s :: rest)

end Block

/-- **The text of a block scalar** after its sign, and what follows it. `margin` is the column of
the mapping around it, if there is one. -/
def blockScalar? (isFolded : Bool) (margin : Option Nat) (spots : List Spot) :
    Option (List Char × List Spot) := do
  let (header, rest) ← blockHeader? spots
  let least := match margin with
    | some m => m + 1
    | none => 1
  let start : Block := {
    isFolded, least
    margin := header.indentation.map (margin.getD 0 + ·)
    text := [], last := [], empty := [], isIndented := false, inLine := false }
  let (b, rest) ← start.read rest
  return (b.close header.chomping, rest)

end FleetCompliance.Yaml
