import FleetCompliance.Text.Blank
import FleetCompliance.Text.Integer
import FleetCompliance.Json.Basic

/-!
# Times of day

A wall-clock time with hours, minutes and seconds. The second may be 60, for a leap second; it lies
between second 59 and the next minute, wherever it stands.
-/

namespace FleetCompliance

/-- A time of day. -/
structure TimeOfDay where
  hour : Nat
  minute : Nat
  second : Nat
  hour_lt : hour < 24
  minute_lt : minute < 60
  /-- Second 60 is a leap second. -/
  second_le : second ≤ 60
deriving DecidableEq, Repr

namespace TimeOfDay

/-- The time of a wall clock, if it exists. -/
def ofParts? (hour minute second : Nat) : Option TimeOfDay :=
  if h : hour < 24 ∧ minute < 60 ∧ second ≤ 60 then
    some ⟨hour, minute, second, h.1, h.2.1, h.2.2⟩
  else none

/-- The time that many seconds after midnight, on a day without leap seconds. -/
def ofSeconds (n : Int) : TimeOfDay where
  hour := (n % 86400 / 3600).toNat
  minute := (n % 3600 / 60).toNat
  second := (n % 60).toNat
  hour_lt := by omega
  minute_lt := by omega
  second_le := by omega

/-- The position in the day. A minute has room for its leap second. -/
def rank (t : TimeOfDay) : Nat := (t.hour * 60 + t.minute) * 61 + t.second

instance : LE TimeOfDay := ⟨fun a b => a.rank ≤ b.rank⟩

instance : DecidableLE TimeOfDay := fun a b => inferInstanceAs (Decidable (a.rank ≤ b.rank))

instance : LT TimeOfDay := ⟨fun a b => a.rank < b.rank⟩

instance : DecidableLT TimeOfDay := fun a b => inferInstanceAs (Decidable (a.rank < b.rank))

/-! ## Text -/

/-- Hours, minutes and seconds with two digits each. -/
def text (t : TimeOfDay) : String :=
  Text.padded 2 t.hour ++ ":" ++ Text.padded 2 t.minute ++ ":" ++ Text.padded 2 t.second

/-- A number of one or two digits after any blanks, and what follows it. -/
def number? (cs : List Char) : Option (Nat × List Char) :=
  match Text.trimStart cs with
  | [] => none
  | a :: rest => do
    let high ← Text.digit? a
    match rest with
    | [] => some (high, [])
    | b :: more =>
      match Text.digit? b with
      | some low => some (high * 10 + low, more)
      | none => some (high, rest)

/-- Such numbers, as many as wanted, between colons and up to the end. -/
def numbers? : Nat → List Char → Option (List Nat)
  | 0, _ => none
  | 1, cs => do
    let (n, rest) ← number? cs
    if rest.isEmpty then some [n] else none
  | count + 2, cs => do
    let (n, rest) ← number? cs
    match rest with
    | ':' :: more => (numbers? (count + 1) more).map (n :: ·)
    | _ => none

/-- **The time that a text writes**: hours, minutes and seconds, or hours and minutes alone. -/
def parse? (s : String) : Option TimeOfDay :=
  match numbers? 3 s.toList, numbers? 2 s.toList with
  | some [hour, minute, second], _ => ofParts? hour minute second
  | _, some [hour, minute] => ofParts? hour minute 0
  | _, _ => none

/-- The time in a JSON string. -/
def ofJson? (j : Json) : Option TimeOfDay := do parse? (← j.text?)

/-- A time as a JSON string. -/
def toJson (t : TimeOfDay) : Json := .str t.text

end TimeOfDay

end FleetCompliance
