/-!
# Integers written in decimal

A whole number of a bounded range, read from text: an optional sign, then ASCII digits and nothing
else. Digits are read from the left, so of two faults the one further left is reported.
-/

namespace FleetCompliance.Text

/-- Why a text is not an integer of the wanted range. -/
inductive IntegerFault where
  /-- There is no character at all. -/
  | empty
  /-- A character that is no digit, a sign without digits, or a minus where the range has no
  negative number. -/
  | invalidDigit
  /-- The number lies above the range. -/
  | tooLarge
  /-- The number lies below the range. -/
  | tooSmall
deriving DecidableEq, Repr

/-- The wording of an integer fault. -/
def IntegerFault.message : IntegerFault → String
  | .empty => "cannot parse integer from empty string"
  | .invalidDigit => "invalid digit found in string"
  | .tooLarge => "number too large to fit in target type"
  | .tooSmall => "number too small to fit in target type"

/-- The value of an ASCII decimal digit. -/
def digit? (c : Char) : Option Nat :=
  if '0' ≤ c ∧ c ≤ '9' then some (c.toNat - '0'.toNat) else none

/-- The number that decimal digits write. -/
def digitsValue (ds : List Char) : Nat :=
  ds.foldl (fun n c => n * 10 + (c.toNat - '0'.toNat)) 0

/-- Reads digits onto `acc`, failing at the first character that is no digit or that takes the
number above `bound`. -/
def readDigits (bound : Nat) (beyond : IntegerFault) (acc : Nat) :
    List Char → Except IntegerFault Nat
  | [] => .ok acc
  | c :: rest =>
    match digit? c with
    | none => .error .invalidDigit
    | some d =>
      if acc * 10 + d ≤ bound then readDigits bound beyond (acc * 10 + d) rest
      else .error beyond

/-- At least one digit, up to `bound`. -/
def readMagnitude (bound : Nat) (beyond : IntegerFault) :
    List Char → Except IntegerFault Nat
  | [] => .error .invalidDigit
  | cs => readDigits bound beyond 0 cs

/-- **A number without sign bit.** A leading plus is accepted, a minus is an invalid digit. -/
def readUnsigned (bound : Nat) (s : String) : Except IntegerFault Nat :=
  match s.toList with
  | [] => .error .empty
  | '+' :: cs => readMagnitude bound .tooLarge cs
  | cs => readMagnitude bound .tooLarge cs

/-- **A number from `-(bound + 1)` to `bound`**, with either sign in front. -/
def readSigned (bound : Nat) (s : String) : Except IntegerFault Int :=
  match s.toList with
  | [] => .error .empty
  | '+' :: cs => (readMagnitude bound .tooLarge cs).map Int.ofNat
  | '-' :: cs => (readMagnitude (bound + 1) .tooSmall cs).map fun n => -Int.ofNat n
  | cs => (readMagnitude bound .tooLarge cs).map Int.ofNat

/-- The largest number of 32 bits. -/
def maxWord32 : Nat := 4294967295

/-- The largest number of 64 bits. -/
def maxWord64 : Nat := 18446744073709551615

/-- The largest signed number of 64 bits. -/
def maxInt64 : Nat := 9223372036854775807

/-- A natural number in decimal, with zeros in front up to `width` digits. -/
def padded (width n : Nat) : String :=
  let ds := Nat.toDigits 10 n
  String.ofList (List.replicate (width - ds.length) '0' ++ ds)

/-- The lower-case hexadecimal digit of a number below sixteen. -/
def hexDigit (n : Nat) : Char :=
  if n < 10 then Char.ofNat ('0'.toNat + n) else Char.ofNat ('a'.toNat + (n - 10))

/-- The value of a hexadecimal digit of either case. -/
def hexValue? (c : Char) : Option Nat :=
  if '0' ≤ c ∧ c ≤ '9' then some (c.toNat - '0'.toNat)
  else if 'a' ≤ c ∧ c ≤ 'f' then some (c.toNat - 'a'.toNat + 10)
  else if 'A' ≤ c ∧ c ≤ 'F' then some (c.toNat - 'A'.toNat + 10)
  else none

/-- The last `width` hexadecimal digits of a number, the most significant first. -/
def hexDigits : Nat → Nat → List Char
  | 0, _ => []
  | width + 1, n => hexDigits width (n / 16) ++ [hexDigit (n % 16)]

/-- The number that hexadecimal digits write, read onto `acc`. -/
def ofHexDigits? (acc : Nat) : List Char → Option Nat
  | [] => some acc
  | c :: rest => do ofHexDigits? (acc * 16 + (← hexValue? c)) rest

end FleetCompliance.Text
