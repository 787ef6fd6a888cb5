import FleetCompliance.Json.Basic
import FleetCompliance.Text.Integer

/-!
# Tokens of a JSON text

The first stage of reading: a text becomes a list of tokens. The grammar is the strict one: no
comments, no raw control characters in strings, no leading zeros, and only space, tab, line feed
and carriage return between tokens.

A literal that is well formed but denotes nothing becomes a token without value. Such are a number
beyond the doubles and a string with half a surrogate pair.

The scanner looks at one character at a time. What it has seen of an unfinished literal is its
`Mode`, so a whole text is read by a fold.
-/

namespace FleetCompliance.Json

/-- A token. -/
inductive Token where
  | openArray
  | closeArray
  | openObject
  | closeObject
  | comma
  | colon
  /-- A scalar other than a string. -/
  | scalar (value : Json)
  /-- A string, absent if it denotes no text. -/
  | text (value : Option String)

/-! ## Numbers -/

/-- The parts of a number literal. -/
structure NumberLiteral where
  /-- Whether a minus stands in front. -/
  negative : Bool
  /-- The digits before the point. -/
  whole : List Char
  /-- The digits after the point, absent if there is no point. -/
  fraction : Option (List Char)
  /-- The exponent, absent if there is none. -/
  exponent : Option Int

/-- At least one digit, and nothing but digits. -/
def isDigits (ds : List Char) : Bool := !ds.isEmpty && ds.all Char.isDigit

/-- The exponent after its letter. -/
def exponent? : List Char → Option Int
  | '+' :: ds => if isDigits ds then some (Text.digitsValue ds) else none
  | '-' :: ds => if isDigits ds then some (-(Text.digitsValue ds : Int)) else none
  | ds => if isDigits ds then some (Text.digitsValue ds) else none

/-- Whether a character begins an exponent. -/
def isExponentMark (c : Char) : Bool := c == 'e' || c == 'E'

/-- **The grammar of numbers**: a sign, digits without a leading zero, a fraction, an exponent. -/
def NumberLiteral.ofChars? (cs : List Char) : Option NumberLiteral := do
  let (negative, unsigned) := match cs with
    | '-' :: rest => (true, rest)
    | _ => (false, cs)
  let mantissa := unsigned.takeWhile (!isExponentMark ·)
  let exponent ← match unsigned.dropWhile (!isExponentMark ·) with
    | [] => pure none
    | _ :: rest => (exponent? rest).map some
  let whole := mantissa.takeWhile (· != '.')
  let fraction ← match mantissa.dropWhile (· != '.') with
    | [] => pure none
    | _ :: ds => if isDigits ds then pure (some ds) else none
  if isDigits whole && (whole.length == 1 || whole.head? != some '0') then
    some { negative, whole, fraction, exponent }
  else none

/-- The double nearest to `digits * 10 ^ exponent`, absent beyond the greatest double. The number of
digits tells beforehand where the value is out of reach on either side. -/
def nearestDouble? (digits : Nat) (exponent : Int) : Option Float :=
  let magnitude := (Nat.toDigits 10 digits).length + exponent
  if digits = 0 then some 0
  else if magnitude > 400 then none
  else if magnitude < -400 then some 0
  else
    let x := Float.ofScientific digits (exponent < 0) exponent.natAbs
    if x.isFinite then some x else none

/-- **The value of a number literal.** Without point and exponent it is an integer where that fits
in 64 bits; minus zero is a double, for an integer has no sign of zero. -/
def NumberLiteral.value (l : NumberLiteral) : Json :=
  let places := (l.fraction.getD []).length
  let digits := Text.digitsValue (l.whole ++ l.fraction.getD [])
  let double := match nearestDouble? digits ((l.exponent.getD 0) - places) with
    | some x => .num (.real (if l.negative then -x else x))
    | none => .unreadable
  if l.fraction.isSome || l.exponent.isSome then double
  else if l.negative then
    if 0 < digits ∧ digits ≤ Text.maxInt64 + 1 then .num (.int (-(digits : Int))) else double
  else if digits ≤ Text.maxWord64 then .num (.int digits) else double

/-! ## Strings -/

/-- Whether a 16-bit unit is the first half of a surrogate pair. -/
def isHighSurrogate (n : Nat) : Bool := 0xD800 ≤ n && n ≤ 0xDBFF

/-- Whether a 16-bit unit is the second half of a surrogate pair. -/
def isLowSurrogate (n : Nat) : Bool := 0xDC00 ≤ n && n ≤ 0xDFFF

/-- Adds an escaped unit to the code points seen so far, newest first. A second half completes a
first half directly before it. -/
def addUnit (unit : Nat) : List Nat → List Nat
  | high :: rest =>
    if isHighSurrogate high && isLowSurrogate unit then
      (0x10000 + (high - 0xD800) * 0x400 + (unit - 0xDC00)) :: rest
    else unit :: high :: rest
  | [] => [unit]

/-- The text of code points given newest first, absent if half a pair is among them. -/
def textOf? (points : List Nat) : Option String :=
  if points.any fun n => isHighSurrogate n || isLowSurrogate n then none
  else some (String.ofList (points.reverse.map Char.ofNat))

/-- The character that a letter after a backslash stands for. -/
def escaped? : Char → Option Nat
  | '"' => some '"'.toNat
  | '\\' => some '\\'.toNat
  | '/' => some '/'.toNat
  | 'b' => some 8
  | 'f' => some 12
  | 'n' => some 10
  | 'r' => some 13
  | 't' => some 9
  | _ => none

/-! ## The scanner -/

/-- What the scanner is in the middle of. Characters seen are kept newest first. -/
inductive Mode where
  | between
  | word (seen : List Char)
  | number (seen : List Char)
  | string (points : List Nat)
  | escape (points : List Nat)
  | unit (points : List Nat) (digitsLeft : Nat) (value : Nat)

/-- The scanner between two characters: its mode, and the tokens so far, newest first. -/
structure Scan where
  mode : Mode
  tokens : List Token

/-- The token of a word. -/
def wordToken? (seen : List Char) : Option Token :=
  match String.ofList seen.reverse with
  | "null" => some (.scalar .null)
  | "true" => some (.scalar (.bool true))
  | "false" => some (.scalar (.bool false))
  | _ => none

/-- The token of a number. -/
def numberToken? (seen : List Char) : Option Token :=
  (NumberLiteral.ofChars? seen.reverse).map fun l => .scalar l.value

/-- Whether a character may stand in a number. -/
def isNumberChar (c : Char) : Bool :=
  c.isDigit || c == '-' || c == '+' || c == '.' || c == 'e' || c == 'E'

/-- One character outside of every literal. -/
def Scan.open? (tokens : List Token) (c : Char) : Option Scan :=
  let single (t : Token) := some (Scan.mk .between (t :: tokens))
  match c with
  | ' ' | '\t' | '\n' | '\r' => some (Scan.mk .between tokens)
  | '[' => single .openArray
  | ']' => single .closeArray
  | '\x7b' => single .openObject
  | '\x7d' => single .closeObject
  | ',' => single .comma
  | ':' => single .colon
  | '"' => some (Scan.mk (.string []) tokens)
  | _ =>
    if c.isDigit || c == '-' then some (Scan.mk (.number [c]) tokens)
    else if c.isLower then some (Scan.mk (.word [c]) tokens)
    else none

/-- **One step of the scanner.** A word or number ends at the first character that cannot belong to
it, which is then looked at afresh. -/
def Scan.step (s : Scan) (c : Char) : Option Scan :=
  match s.mode with
  | .between => Scan.open? s.tokens c
  | .word seen =>
    if c.isLower then some { s with mode := .word (c :: seen) }
    else do Scan.open? ((← wordToken? seen) :: s.tokens) c
  | .number seen =>
    if isNumberChar c then some { s with mode := .number (c :: seen) }
    else do Scan.open? ((← numberToken? seen) :: s.tokens) c
  | .string points =>
    if c = '"' then some (Scan.mk .between (.text (textOf? points) :: s.tokens))
    else if c = '\\' then some { s with mode := .escape points }
    else if c.toNat < 0x20 then none
    else some { s with mode := .string (c.toNat :: points) }
  | .escape points =>
    if c = 'u' then some { s with mode := .unit points 4 0 }
    else do some { s with mode := .string ((← escaped? c) :: points) }
  | .unit points digitsLeft value => do
    let value := value * 16 + (← Text.hexValue? c)
    if digitsLeft ≤ 1 then some { s with mode := .string (addUnit value points) }
    else some { s with mode := .unit points (digitsLeft - 1) value }

/-- The tokens at the end of the text. A string must have been closed. -/
def Scan.finish (s : Scan) : Option (List Token) :=
  match s.mode with
  | .between => some s.tokens.reverse
  | .word seen => do some ((← wordToken? seen) :: s.tokens).reverse
  | .number seen => do some ((← numberToken? seen) :: s.tokens).reverse
  | _ => none

/-- The tokens of a text. -/
def tokens? (s : String) : Option (List Token) := do
  (← s.toList.foldlM Scan.step (Scan.mk .between [])).finish

end FleetCompliance.Json
