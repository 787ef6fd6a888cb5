import FleetCompliance.Yaml.Scalar.Basic
import FleetCompliance.Yaml.Spot

/-!
# Plain scalars

A plain scalar has no mark around it. It goes on, over spaces and line ends, until something comes
that cannot belong to it: a comment after a gap, a colon that ends a word, a line that is not
indented enough, the start or end of a document, and between braces a mark of the mapping.
-/

namespace FleetCompliance.Yaml

/-- Whether a character is a mark of collections between brackets or braces. -/
def isFlowMark (c : Char) : Bool := ",[]\x7b\x7d".toList.contains c

/-- Whether a character cannot begin a plain scalar, whatever follows it. -/
def isIndicator (c : Char) : Bool := ",[]\x7b\x7d#&*!|>'\"%@\x60".toList.contains c

/-- Whether a plain scalar can begin here. A hyphen has to belong to a word; so has a question mark
or colon, and it must not stand between braces. -/
def beginsPlain (inBraces : Bool) : List Spot → Bool
  | [] => false
  | s :: rest =>
    if s.char == '-' then !endsWord rest
    else if s.char == '?' || s.char == ':' then !inBraces && !endsWord rest
    else !isIndicator s.char && !s.isSpace && !s.isLineEnd

/-- Where a plain scalar stands. -/
structure Surroundings where
  inBraces : Bool
  /-- The least column that a further line may begin in, if it is not between braces. -/
  margin : Nat

/-- Whether the colon or mark here ends a plain scalar. -/
def Surroundings.ends (around : Surroundings) (s : Spot) (rest : List Spot) : Bool :=
  (s.char == ':' && endsWord rest) || (around.inBraces && isFlowMark s.char)

/-- Whether the colon here is too close to a mark between braces, which is refused. -/
def Surroundings.isCrowded (around : Surroundings) (s : Spot) (rest : List Spot) : Bool :=
  around.inBraces && s.char == ':'
    && rest.head?.any fun next => isFlowMark next.char || next.char == '?'

/-- Whether a plain scalar does not go on after a gap. -/
def Surroundings.stops (around : Surroundings) (s : Spot) (rest : List Spot) : Bool :=
  s.char == '#' || isBoundary (s :: rest) || (!around.inBraces && s.column < around.margin)

/-- What a plain scalar comes to: its text, whether lines end after it, and what follows these. -/
structure PlainReading where
  text : List Char
  isBroken : Bool
  rest : List Spot

/-- **Reads on in a plain scalar.** `text` is what has been read, newest first, and `gap` lies after
it. A tab must not stand in for indentation. -/
def readPlain (around : Surroundings) (text : List Char) (gap : Gap) :
    List Spot → Option PlainReading
  | [] => some ⟨text.reverse, gap.isBroken, []⟩
  | s :: rest =>
    if s.isLineEnd then readPlain around text (gap.addLineEnd s.char) rest
    else if s.isSpace then
      if gap.isBroken && s.char == '\t' && s.column < around.margin then none
      else readPlain around text (gap.addSpace s.char) rest
    else if !gap.isNone && around.stops s rest then
      some ⟨text.reverse, gap.isBroken, s :: rest⟩
    else if around.isCrowded s rest then none
    else if around.ends s rest then some ⟨text.reverse, gap.isBroken, s :: rest⟩
    else readPlain around (s.char :: gap.fold text) .none rest

end FleetCompliance.Yaml
