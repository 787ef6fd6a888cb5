import FleetCompliance.Calendar.Instant

/-!
# Instants as written by people

An instant is given as the number of its milliseconds, or as a date and time with an offset from
universal time, such as `2026-01-15T12:30:45.123+01:00`. A text that is a number is never looked at
as a date.
-/

namespace FleetCompliance.Instant

/-- The value of a run of exactly `width` digits, and what follows it. -/
def digits? : Nat → Nat → List Char → Option (Nat × List Char)
  | 0, acc, cs => some (acc, cs)
  | width + 1, acc, c :: cs => do digits? width (acc * 10 + (← Text.digit? c)) cs
  | _ + 1, _, [] => none

/-- A number of two digits after a mark. -/
def afterMark? (mark : Char) : List Char → Option (Nat × List Char)
  | c :: cs => if c = mark then digits? 2 0 cs else none
  | [] => none

/-- The milliseconds of a fraction of a second: its first three digits, with zeros for those that
are missing. -/
def fractionMillis (ds : List Char) : Nat := Text.digitsValue ((ds ++ ['0', '0']).take 3)

/-- A fraction of a second, if there is one, in milliseconds. A point needs at least one digit
after it. -/
def fraction? : List Char → Option (Nat × List Char)
  | '.' :: cs =>
    let ds := cs.takeWhile Char.isDigit
    if ds.isEmpty then none else some (fractionMillis ds, cs.dropWhile Char.isDigit)
  | cs => some (0, cs)

/-- The offset from universal time, in minutes, up to the end of the text: the letter Z, or a sign
with hours and minutes. The sign of a negative offset may be the mathematical minus. -/
def offsetMinutes? : List Char → Option Int
  | ['Z'] => some 0
  | ['z'] => some 0
  | sign :: cs => do
    let (hours, rest) ← digits? 2 0 cs
    let (minutes, rest) ← afterMark? ':' rest
    if rest.isEmpty && hours < 24 && minutes < 60 then
      if sign = '+' then some (hours * 60 + minutes)
      else if sign = '-' ∨ sign = '\u2212' then some (-(hours * 60 + minutes : Int))
      else none
    else none
  | [] => none

/-- **The milliseconds of a date and time with offset.** The time of day follows the letter T or a
blank. Second 60 counts as the first second of the next minute. -/
def stampMillis? (s : String) : Option Int := do
  let (year, cs) ← digits? 4 0 s.toList
  let (month, cs) ← afterMark? '-' cs
  let (day, cs) ← afterMark? '-' cs
  let date : Date := ⟨year, month, day⟩
  match cs with
  | [] => none
  | mark :: cs =>
    let (hour, cs) ← digits? 2 0 cs
    let (minute, cs) ← afterMark? ':' cs
    let (second, cs) ← afterMark? ':' cs
    let (millis, cs) ← fraction? cs
    let offset ← offsetMinutes? cs
    if date.isValid && (mark = 'T' || mark = 't' || mark = ' ')
        && hour < 24 && minute < 60 && second ≤ 60 then
      let minutes := date.dayNumber * 1440 + hour * 60 + minute - offset
      some ((minutes * 60 + second) * 1000 + millis)
    else none

/-- Why a text gives no instant. -/
inductive TextFault where
  /-- A number of milliseconds beyond the calendar. -/
  | outOfRange (text : String)
  /-- Neither a number nor a date with time and offset. -/
  | unrecognized (text : String)
deriving DecidableEq, Repr

/-- **The instant that a text gives.** -/
def parse (s : String) : Except TextFault Instant :=
  match Text.readSigned Text.maxInt64 s with
  | .ok n =>
    match ofMillis? n with
    | some t => .ok t
    | none => .error (.outOfRange s)
  | .error _ =>
    match (stampMillis? s).bind ofMillis? with
    | some t => .ok t
    | none => .error (.unrecognized s)

end FleetCompliance.Instant
