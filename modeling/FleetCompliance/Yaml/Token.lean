import FleetCompliance.Yaml.Scalar.Block
import FleetCompliance.Yaml.Scalar.Plain
import FleetCompliance.Yaml.Scalar.Quoted
import FleetCompliance.Yaml.Tag

/-!
# Tokens of a flat YAML document

The first stage of reading: a text becomes a list of tokens. Only documents without nesting have
one: at most one mapping may be open at a time, by indentation or between braces, and nothing begins
a list. That a document is a mapping at all is not known here.

A mapping by indentation has no marks of its own. It begins with the first key and ends with the
first token that stands further left; a key is known only by the colon after it. So the scanner
remembers where a key may have begun, and puts the tokens that say so there when the colon comes.
-/

namespace FleetCompliance.Yaml

/-- A token. -/
inductive Token where
  /-- A line in front of a document. -/
  | directive (d : Directive)
  /-- The marker before a document. -/
  | documentStart
  /-- The marker after a document. -/
  | documentEnd
  /-- A mapping by indentation begins. -/
  | blockStart
  /-- A mapping by indentation ends. -/
  | blockEnd
  | openBrace
  | closeBrace
  | comma
  /-- The key of an entry begins. -/
  | key
  /-- The value of an entry begins. -/
  | value
  /-- A node that stands elsewhere under this name. -/
  | alias (name : String)
  /-- The name of the node that follows. -/
  | anchor (name : String)
  /-- The tag of the node that follows. -/
  | tag (t : Tag)
  | scalar (style : Style) (text : String)
deriving DecidableEq, Repr

/-- Where a key may have begun. -/
structure PossibleKey where
  line : Nat
  column : Nat
  /-- The number of tokens before it. -/
  place : Nat
  /-- Whether nothing but a key can stand there. -/
  isRequired : Bool
deriving DecidableEq, Repr

/-- The scanner between two tokens. -/
structure Scan where
  rest : List Spot
  /-- The tokens so far, newest first. -/
  tokens : List Token
  /-- The column of the mapping by indentation, if one is open. -/
  margin : Option Nat
  inBraces : Bool
  /-- Whether a key may begin here. -/
  keyAllowed : Bool
  key : Option PossibleKey

namespace Scan

/-- The scanner at the start of a document. -/
def start (spots : List Spot) : Scan := ⟨spots, [], none, false, true, none⟩

/-- A token on top of the others, and what follows it. -/
def emit (s : Scan) (t : Token) (rest : List Spot) : Scan :=
  { s with tokens := t :: s.tokens, rest }

/-- Puts a token behind the first `place` ones. -/
def insert (s : Scan) (place : Nat) (t : Token) : Scan :=
  let later := s.tokens.length - place
  { s with tokens := s.tokens.take later ++ t :: s.tokens.drop later }

/-! ## Between tokens -/

/-- What follows spaces, line ends and comments, and whether a key may begin there. A line end
allows a key except between braces. Tabs are skipped where no key may begin, and a byte order mark
at the very start. -/
def skip (inBraces keyAllowed inComment : Bool) : List Spot → Bool × List Spot
  | [] => (keyAllowed, [])
  | s :: rest =>
    if s.isLineEnd then skip inBraces (keyAllowed || !inBraces) false rest
    else if inComment then skip inBraces keyAllowed true rest
    else if s.char == ' ' || (s.char == '\t' && (inBraces || !keyAllowed))
        || (s.char == '\ufeff' && s.line == 0 && s.column == 0) then
      skip inBraces keyAllowed false rest
    else if s.char == '#' then skip inBraces keyAllowed true rest
    else (keyAllowed, s :: rest)

/-- The scanner before the next token. -/
def advance (s : Scan) : Scan :=
  let (keyAllowed, rest) := skip s.inBraces s.keyAllowed false s.rest
  { s with keyAllowed, rest }

/-- Forgets where a key may have begun. A key that had to stand there is missing its colon. -/
def dropKey? (s : Scan) : Option Scan :=
  if s.key.any (·.isRequired) then none else some { s with key := none }

/-- Remembers that a key may begin here. -/
def noteKey? (s : Scan) (here : Spot) : Option Scan :=
  if s.keyAllowed then do
    let isRequired := !s.inBraces && s.margin == some here.column
    let s ← s.dropKey?
    return { s with key := some ⟨here.line, here.column, s.tokens.length, isRequired⟩ }
  else some s

/-- The greatest distance between the start of a key and its colon. -/
def maxKeyWidth : Nat := 1024

/-- Whether a key that began there may still end here. -/
def PossibleKey.reaches (k : PossibleKey) (here : Spot) : Bool :=
  k.line == here.line && here.column ≤ k.column + maxKeyWidth

/-- Forgets a key that began too far away. -/
def dropFarKey? (s : Scan) (here : Spot) : Option Scan :=
  if s.key.all (PossibleKey.reaches · here) then some s else s.dropKey?

/-- Ends the mapping by indentation, if one is open. -/
def leaveBlock (s : Scan) : Scan :=
  match s.margin with
  | some _ => { s with margin := none, tokens := .blockEnd :: s.tokens }
  | none => s

/-- Ends a mapping by indentation that stands further right. -/
def unindent (s : Scan) (here : Spot) : Scan :=
  if !s.inBraces && s.margin.any (here.column < ·) then s.leaveBlock else s

/-- An entry that begins in some column, after `place` tokens. The first one begins a mapping by
indentation; one further right would begin a nested mapping. -/
def enterBlock? (s : Scan) (column place : Nat) : Option Scan :=
  if s.inBraces then some s
  else
    match s.margin with
    | none => some { s.insert place .blockStart with margin := some column }
    | some m => if m < column then none else some s

/-! ## Tokens -/

/-- A directive or marker, which ends everything that is open. -/
def boundary? (s : Scan) (t : Token) (rest : List Spot) : Option Scan := do
  if s.inBraces then none
  else return { (← s.leaveBlock.dropKey?).emit t rest with keyAllowed := false }

/-- A question mark in front of a key. -/
def explicitKey? (s : Scan) (here : Spot) (rest : List Spot) : Option Scan := do
  if s.inBraces || s.keyAllowed then
    let s ← (← s.enterBlock? here.column s.tokens.length).dropKey?
    return { s.emit .key rest with keyAllowed := !s.inBraces }
  else none

/-- A colon, which makes a key of what may be one before it. -/
def value? (s : Scan) (here : Spot) (rest : List Spot) : Option Scan := do
  match s.key with
  | some k =>
    let s ← (s.insert k.place .key).enterBlock? k.column k.place
    return { s.emit .value rest with key := none, keyAllowed := false }
  | none =>
    if s.inBraces || s.keyAllowed then
      let s ← s.enterBlock? here.column s.tokens.length
      return { s.emit .value rest with keyAllowed := !s.inBraces }
    else none

/-- A part of a node that may also begin a key. -/
def part? (s : Scan) (here : Spot) (t : Token) (rest : List Spot) : Option Scan := do
  return { (← s.noteKey? here).emit t rest with keyAllowed := false }

/-- Whether the name of an anchor may end here. -/
def endsName (spots : List Spot) : Bool :=
  endsWord spots || spots.head?.any fun s => "?:,]\x7d%@\x60".toList.contains s.char

/-- An anchor or alias after its sign. -/
def named? (s : Scan) (here : Spot) (token : String → Token) (rest : List Spot) : Option Scan :=
  let (name, after) := readName rest
  if !name.isEmpty && endsName after then s.part? here (token (String.ofList name)) after else none

/-- A tag after its exclamation mark. -/
def tag? (s : Scan) (here : Spot) (rest : List Spot) : Option Scan := do
  let (t, after) ← Tag.read? s.inBraces rest
  s.part? here (.tag t) after

/-- A block scalar after its sign. -/
def block? (s : Scan) (style : Style) (rest : List Spot) : Option Scan := do
  let (text, after) ← blockScalar? (style == .folded) s.margin rest
  return { (← s.dropKey?).emit (.scalar style (String.ofList text)) after with keyAllowed := true }

/-- A quoted scalar after its first quote. -/
def quoted? (s : Scan) (here : Spot) (rest : List Spot) : Option Scan := do
  let (text, after) ←
    if here.char == '"' then readDoubleQuoted [] .none .none rest
    else readSingleQuoted [] .none rest
  s.part? here (.scalar .quoted (String.ofList text)) after

/-- A plain scalar. If lines end after it, a key may begin next. -/
def plain? (s : Scan) (here : Spot) (rest : List Spot) : Option Scan := do
  let around : Surroundings := ⟨s.inBraces, (s.margin.map (· + 1)).getD 0⟩
  let reading ← readPlain around [] .none (here :: rest)
  let s ← s.part? here (.scalar .plain (String.ofList reading.text)) reading.rest
  return { s with keyAllowed := reading.isBroken }

/-- A scalar, or part of a node in front of one. -/
def node? (s : Scan) (here : Spot) (rest : List Spot) : Option Scan :=
  match here.char with
  | '*' => s.named? here .alias rest
  | '&' => s.named? here .anchor rest
  | '!' => s.tag? here rest
  | '\'' | '"' => s.quoted? here rest
  | '|' => if s.inBraces then none else s.block? .literal rest
  | '>' => if s.inBraces then none else s.block? .folded rest
  | _ => if beginsPlain s.inBraces (here :: rest) then s.plain? here rest else none

/-- An opening or closing brace or a comma. Braces do not nest. -/
def brace? (s : Scan) (t : Token) (rest : List Spot) : Option Scan := do
  let s ← s.dropKey?
  match t with
  | .openBrace =>
    if s.inBraces then none
    else some { s.emit t rest with inBraces := true, keyAllowed := true }
  | .closeBrace => some { s.emit t rest with inBraces := false, keyAllowed := false }
  | _ => some { s.emit t rest with keyAllowed := true }

/-- **The next token**, which begins here. -/
def token? (s : Scan) (here : Spot) (rest : List Spot) : Option Scan := do
  let s := (← s.dropFarKey? here).unindent here
  let isMark := s.inBraces || endsWord rest
  if here.column == 0 && here.char == '%' then
    let (d, after) ← Directive.read? rest
    s.boundary? (.directive d) after
  else if isMarker '-' (here :: rest) then s.boundary? .documentStart (rest.drop 2)
  else if isMarker '.' (here :: rest) then s.boundary? .documentEnd (rest.drop 2)
  else if here.char == '\x7b' then s.brace? .openBrace rest
  else if here.char == '\x7d' then s.brace? .closeBrace rest
  else if here.char == ',' then s.brace? .comma rest
  else if here.char == '?' && isMark then s.explicitKey? here rest
  else if here.char == ':' && isMark then s.value? here rest
  else s.node? here rest

/-- The tokens at the end of the text. -/
def finish (s : Scan) : Option (List Token) := do return (← s.dropKey?).leaveBlock.tokens.reverse

/-- Scans on to the end. Each token takes at least one character, so a `fuel` above their number is
enough. -/
def run : Nat → Scan → Option (List Token)
  | 0, _ => none
  | fuel + 1, s => do
    let s := s.advance
    match s.rest with
    | [] => s.finish
    | here :: rest => run fuel (← s.token? here rest)

end Scan

/-- **The tokens of a text**, absent if it has none or nests. -/
def tokens? (s : String) : Option (List Token) := do
  let spots ← spots? s
  (Scan.start spots).run (spots.length + 1)

end FleetCompliance.Yaml
