import FleetCompliance.Text.Integer
import FleetCompliance.Yaml.Scalar.Basic
import FleetCompliance.Yaml.Spot

/-!
# Quoted scalars

Between quotes every character counts for itself, line ends are folded, and the closing quote ends
the scalar wherever it stands. Between single quotes a quote is written twice. Between double quotes
a backslash escapes: letters stand for controls, digits give a character by number, and an escaped
line end is left out.
-/

namespace FleetCompliance.Yaml

/-- The character that a letter after a backslash stands for. -/
def escaped? : Char → Option Char
  | '0' => some '\x00'
  | 'a' => some '\x07'
  | 'b' => some '\x08'
  | 't' => some '\t'
  | '\t' => some '\t'
  | 'n' => some '\n'
  | 'v' => some '\x0b'
  | 'f' => some '\x0c'
  | 'r' => some '\r'
  | 'e' => some '\x1b'
  | ' ' => some ' '
  | '"' => some '"'
  | '/' => some '/'
  | '\\' => some '\\'
  | 'N' => some '\u0085'
  | '_' => some '\u00a0'
  | 'L' => some '\u2028'
  | 'P' => some '\u2029'
  | _ => none

/-- The number of hexadecimal digits after an escape letter. -/
def hexWidth? : Char → Option Nat
  | 'x' => some 2
  | 'u' => some 4
  | 'U' => some 8
  | _ => none

/-- The character of a code point. -/
def charOf? (n : Nat) : Option Char := if n.isValidChar then some (Char.ofNat n) else none

/-- **Reads on up to a closing single quote**: the text, and what follows the quote. -/
def readSingleQuoted (text : List Char) (gap : Gap) : List Spot → Option (List Char × List Spot)
  | [] => none
  | s :: rest =>
    if s.isLineEnd then readSingleQuoted text (gap.addLineEnd s.char) rest
    else if s.isSpace then readSingleQuoted text (gap.addSpace s.char) rest
    else if isBoundary (s :: rest) then none
    else if s.char == '\'' then
      match rest with
      | next :: more =>
        if next.char == '\'' then readSingleQuoted ('\'' :: gap.fold text) .none more
        else some ((gap.fold text).reverse, rest)
      | [] => some ((gap.fold text).reverse, [])
    else readSingleQuoted (s.char :: gap.fold text) .none rest

/-- What a backslash between double quotes has begun. -/
inductive Escape where
  /-- Nothing: there was no backslash. -/
  | none
  /-- A backslash has been read. -/
  | begun
  /-- A number is being read; so many digits are missing. -/
  | number (missing value : Nat)

/-- **Reads on up to a closing double quote**: the text, and what follows the quote. -/
def readDoubleQuoted (text : List Char) (gap : Gap) (escape : Escape) :
    List Spot → Option (List Char × List Spot)
  | [] => Option.none
  | s :: rest =>
    match escape with
    | .begun =>
      match escaped? s.char, hexWidth? s.char with
      | some c, _ => readDoubleQuoted (c :: text) .none .none rest
      | Option.none, some width => readDoubleQuoted text .none (.number width 0) rest
      | Option.none, Option.none =>
        if s.isLineEnd then readDoubleQuoted text (.lines Option.none []) .none rest
        else Option.none
    | .number missing value => do
      let value := value * 16 + (← Text.hexValue? s.char)
      if missing ≤ 1 then readDoubleQuoted ((← charOf? value) :: text) .none .none rest
      else readDoubleQuoted text .none (.number (missing - 1) value) rest
    | .none =>
      if s.isLineEnd then readDoubleQuoted text (gap.addLineEnd s.char) .none rest
      else if s.isSpace then readDoubleQuoted text (gap.addSpace s.char) .none rest
      else if isBoundary (s :: rest) then Option.none
      else if s.char == '"' then some ((gap.fold text).reverse, rest)
      else if s.char == '\\' then readDoubleQuoted (gap.fold text) .none .begun rest
      else readDoubleQuoted (s.char :: gap.fold text) .none .none rest

end FleetCompliance.Yaml
