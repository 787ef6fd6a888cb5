import FleetCompliance.Calendar.TimeOfDay
import Mathlib.Algebra.Order.Ring.Nat
import Mathlib.Data.List.Basic

/-!
# Times of day are read back

A time of day has one printed form and several accepted ones: each number may
have blanks in front and one digit or two, and the seconds may be missing. The
printed form has two digits for each of three numbers, so it is read as three
numbers, and two decimal digits are read from where they stand
(`number?_padded`).
-/

namespace FleetCompliance

namespace Text

/-- A number below a hundred is padded to two digits. -/
theorem toList_padded_two : ∀ n < 100,
    (padded 2 n).toList = [Char.ofNat (48 + n / 10), Char.ofNat (48 + n % 10)] := by decide

/-- A decimal digit is read back, and is not blank. -/
theorem digit?_ofNat : ∀ d < 10,
    digit? (Char.ofNat (48 + d)) = some d ∧ isBlank (Char.ofNat (48 + d)) = false := by decide

end Text

namespace TimeOfDay

/-- **Two digits are read from where they stand**, whatever follows. -/
theorem number?_padded {n : ℕ} (h : n < 100) (rest : List Char) :
    number? ((Text.padded 2 n).toList ++ rest) = some (n, rest) := by
  obtain ⟨htens, hblank⟩ := Text.digit?_ofNat (n / 10) (by omega)
  obtain ⟨hones, -⟩ := Text.digit?_ofNat (n % 10) (by omega)
  have hvalue : n / 10 * 10 + n % 10 = n := Nat.div_add_mod' n 10
  rw [Text.toList_padded_two n h]
  simp [number?, Text.trimStart, hblank, htens, hones, hvalue]

/-- Three numbers between colons are read one after the other. -/
theorem numbers?_text (t : TimeOfDay) :
    numbers? 3 t.text.toList = some [t.hour, t.minute, t.second] := by
  have hhour : t.hour < 100 := Nat.lt_trans t.hour_lt (by decide)
  have hminute : t.minute < 100 := Nat.lt_trans t.minute_lt (by decide)
  have hsecond : t.second < 100 := Nat.lt_of_le_of_lt t.second_le (by decide)
  have hlast := number?_padded hsecond []
  rw [List.append_nil] at hlast
  simp [text, numbers?, String.toList_append, number?_padded, hhour, hminute, hlast]

/-- **A time of day is read from its text**, leap seconds included. -/
theorem parse?_text (t : TimeOfDay) : parse? t.text = some t := by
  rw [parse?, t.numbers?_text]
  exact dif_pos ⟨t.hour_lt, t.minute_lt, t.second_le⟩

end TimeOfDay

end FleetCompliance
