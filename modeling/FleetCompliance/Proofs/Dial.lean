import FleetCompliance.Proofs.CountLedger
import Mathlib.Algebra.Order.Ring.Int
import Mathlib.Tactic.IntervalCases

/-!
# Windows on the dial

A window within a day is written as two times, and is read in two ways: as what
lies between them if the start comes first, and as what lies outside of them if
it does not, so that the window spans midnight. Both readings are one on the
dial of a clock, where a day is a whole turn. Going forward from the start one
meets every time of the window, the end being the last one, and it does not
matter whether midnight is passed on the way (`windowContains_iff`).

The dial counts in half seconds. A clock shows whole seconds, but a window may be
bounded by a leap second, which is later than the second before it and earlier
than the next minute. Half a second is room enough for it.

What the clock shows is found by counting seconds from the start of 1970, rounded
down and put forward by the offset of the zone. The count may be negative, and
local midnight is where the number of its days changes. So the weekday and the
place on the dial are quotient and remainder of one number, and a rule
is active according to that number alone (`Clock.isActive_iff_met`).
-/

namespace FleetCompliance

/-! ## Weekdays -/

namespace Weekday

/-- Four days after a Sunday it was when days began to be counted. -/
theorem index_ofDayNumber (n : ℤ) : ((ofDayNumber n).index : ℤ) = (n + 4) % 7 := by
  have hnonneg : 0 ≤ (n + 4) % 7 := Int.emod_nonneg _ (by decide)
  have hlt : (n + 4) % 7 < 7 := Int.emod_lt_of_pos _ (by decide)
  unfold ofDayNumber
  generalize (n + 4) % 7 = r at hnonneg hlt ⊢
  interval_cases r <;> rfl

/-- A weekday is known by its index. -/
theorem index_injective : Function.Injective index := by
  have hinverse : Function.LeftInverse (fun n : ℕ => ofDayNumber ((n : ℤ) - 4)) index := by
    intro d
    cases d <;> rfl
  exact hinverse.injective

end Weekday

/-! ## The dial -/

namespace TimeOfDay

/-- The seconds from midnight. A leap second counts as the second after it. -/
def secondOfDay (t : TimeOfDay) : ℤ := t.hour * 3600 + t.minute * 60 + t.second

/-- **The point of a time on the dial**, in half seconds from midnight. A leap
second stands between the second before it and the next minute. -/
def point (t : TimeOfDay) : ℤ := 2 * t.secondOfDay - if t.second = 60 then 1 else 0

/-- A time without leap second stands at its second. -/
theorem point_eq {t : TimeOfDay} (h : t.second ≠ 60) : t.point = 2 * t.secondOfDay := by
  rw [point, if_neg h, sub_zero]

/-- The dial begins at midnight. -/
theorem point_nonneg (t : TimeOfDay) : 0 ≤ t.point := by
  unfold point secondOfDay
  split <;> omega

/-- The dial ends at midnight. -/
theorem point_lt (t : TimeOfDay) : t.point < 172800 := by
  have hhour := t.hour_lt
  have hminute := t.minute_lt
  have hsecond := t.second_le
  unfold point secondOfDay
  split <;> omega

/-- **Times are in the order of their points.** -/
theorem le_iff_point_le (t u : TimeOfDay) : t ≤ u ↔ t.point ≤ u.point := by
  have htminute := t.minute_lt
  have htsecond := t.second_le
  have huminute := u.minute_lt
  have husecond := u.second_le
  show t.rank ≤ u.rank ↔ _
  unfold rank point secondOfDay
  split <;> split <;> omega

/-- The same for a strict order. -/
theorem lt_iff_point_lt (t u : TimeOfDay) : t < u ↔ t.point < u.point := by
  have h := le_iff_point_le u t
  show t.rank < u.rank ↔ _
  rw [← not_le, ← not_le]
  exact not_congr h

/-- What a clock shows stands at the second of the day. -/
theorem point_ofSeconds (n : ℤ) : (ofSeconds n).point = 2 * (n % 86400) := by
  have hsecond : (ofSeconds n).second ≠ 60 := by
    show (n % 60).toNat ≠ 60
    omega
  rw [point_eq hsecond]
  show 2 * (((n % 86400 / 3600).toNat : ℤ) * 3600 + ((n % 3600 / 60).toNat : ℤ) * 60
    + ((n % 60).toNat : ℤ)) = _
  omega

end TimeOfDay

/-- **The way forward on the dial** from one point to another, in half seconds. -/
def onward (a b : ℤ) : ℤ := (b - a) % 172800

/-- **A point is met before another one** going forward from a third: it lies
between them, or outside if the way passes midnight. -/
theorem onward_le_onward_iff {a b x : ℤ} (ha : 0 ≤ a ∧ a < 172800) (hb : 0 ≤ b ∧ b < 172800)
    (hx : 0 ≤ x ∧ x < 172800) :
    onward a x ≤ onward a b ↔ if b < a then a ≤ x ∨ x ≤ b else a ≤ x ∧ x ≤ b := by
  unfold onward
  split <;> omega

/-- Whole seconds can be counted as such. -/
theorem onward_two_mul (a b : ℤ) : onward (2 * a) (2 * b) = 2 * ((b - a) % 86400) := by
  unfold onward
  omega

/-- **Whether a second of the day is met in a window**: after the start if only
that is given, before the end if only that is given, and otherwise going forward
from the start until the end. -/
def MetWithin (start stop : Option TimeOfDay) (second : ℤ) : Prop :=
  match start, stop with
  | some s, some e => onward s.point (2 * second) ≤ onward s.point e.point
  | some s, none => s.point ≤ 2 * second
  | none, some e => 2 * second ≤ e.point
  | none, none => True

/-- **A window contains what is met in it.** -/
theorem windowContains_iff (start stop : Option TimeOfDay) (n : ℤ) :
    windowContains start stop (.ofSeconds n) = true ↔ MetWithin start stop (n % 86400) := by
  have hpoint := TimeOfDay.point_ofSeconds n
  cases start with
  | none =>
    cases stop with
    | none => exact iff_of_true rfl trivial
    | some e =>
      show decide (_ ≤ e) = true ↔ 2 * (n % 86400) ≤ e.point
      rw [decide_eq_true_iff, TimeOfDay.le_iff_point_le, hpoint]
  | some s =>
    cases stop with
    | none =>
      show decide (s ≤ _) = true ↔ s.point ≤ 2 * (n % 86400)
      rw [decide_eq_true_iff, TimeOfDay.le_iff_point_le, hpoint]
    | some e =>
      show (if e < s then _ else _) = true
        ↔ onward s.point (2 * (n % 86400)) ≤ onward s.point e.point
      rw [onward_le_onward_iff ⟨s.point_nonneg, s.point_lt⟩ ⟨e.point_nonneg, e.point_lt⟩ (by omega)]
      simp only [← TimeOfDay.lt_iff_point_lt, ← hpoint, ← TimeOfDay.le_iff_point_le]
      split <;> simp

/-! ## Rules -/

/-- **A rule is active by its day and by its place on the dial.** -/
theorem Clock.isActive_iff_met (c : Clock) (s : Scope) :
    c.isActive s = true
      ↔ (∀ days ∈ s.days, days ≠ [] → ∃ d ∈ days, (d.index : ℤ) = (c.localSeconds / 86400 + 4) % 7)
        ∧ MetWithin s.startTime s.endTime (c.localSeconds % 86400) := by
  unfold isActive
  rw [Bool.and_eq_true]
  refine and_congr ?_ (windowContains_iff _ _ _)
  have hindex (d : Weekday) : (d.index : ℤ) = (c.localSeconds / 86400 + 4) % 7 ↔ d = c.weekday := by
    rw [← Weekday.index_ofDayNumber, Int.natCast_inj, Weekday.index_injective.eq_iff]
    rfl
  simp only [hindex, exists_eq_right]
  cases s.days with
  | none => simp
  | some days => cases days <;> simp

/-- **A rule is active on its days, when its window is met on the dial.** Let the
local clock count seconds from the start of 1970, which are those of the instant,
rounded down, put forward by the offset of the zone. The number of days in this
count gives the weekday, and what is left of it the place on the dial, where the
window is followed from its start to its end, with midnight on the way or not. If
neither end is a leap second, this can be followed in whole seconds. Where the
offset is the same, whole weeks make no difference. -/
theorem Clock.isActive_iff_onward (c : Clock) (s : Scope) :
    let count := c.now.millis / 1000 + c.zone.offsetAt c.now
    (c.isActive s = true
        ↔ (∀ days ∈ s.days, days ≠ [] → ∃ d ∈ days, (d.index : ℤ) = (count / 86400 + 4) % 7)
          ∧ MetWithin s.startTime s.endTime (count % 86400))
      ∧ (∀ start ∈ s.startTime, ∀ stop ∈ s.endTime, start.second ≠ 60 → stop.second ≠ 60 →
          (MetWithin s.startTime s.endTime (count % 86400)
            ↔ (count % 86400 - start.secondOfDay) % 86400
                ≤ (stop.secondOfDay - start.secondOfDay) % 86400))
      ∧ ∀ (other : Instant) (weeks : ℤ), other.millis = c.now.millis + weeks * 604800000 →
          c.zone.offsetAt other = c.zone.offsetAt c.now →
          Clock.isActive ⟨other, c.zone⟩ s = c.isActive s := by
  intro count
  refine ⟨c.isActive_iff_met s, ?_, fun other weeks hweeks hoffset => ?_⟩
  · intro start hstart stop hstop hstart60 hstop60
    rw [hstart, hstop]
    show onward start.point (2 * (count % 86400)) ≤ onward start.point stop.point ↔ _
    rw [TimeOfDay.point_eq hstart60, TimeOfDay.point_eq hstop60, onward_two_mul, onward_two_mul]
    omega
  · have hcount : Clock.localSeconds ⟨other, c.zone⟩ = c.localSeconds + weeks * 604800 := by
      show other.millis / 1000 + c.zone.offsetAt other
        = c.now.millis / 1000 + c.zone.offsetAt c.now + weeks * 604800
      omega
    have hday : ((c.localSeconds + weeks * 604800) / 86400 + 4) % 7
        = (c.localSeconds / 86400 + 4) % 7 := by omega
    have hsecond : (c.localSeconds + weeks * 604800) % 86400 = c.localSeconds % 86400 := by omega
    rw [Bool.eq_iff_iff, isActive_iff_met, isActive_iff_met, hcount, hday, hsecond]

/-! ### A Friday night in Los Angeles

The window begins with a leap second and ends in the morning. It is Saturday in
universal time. -/

namespace Sample

/-- A time of day, taken round the clock if need be. -/
def time (hour minute second : ℕ) : TimeOfDay :=
  ⟨hour % 24, minute % 60, second % 61, by omega, by omega, by omega⟩

/-- The clocks of Los Angeles in the year 2025. -/
def losAngeles : TimeZone where
  name := "America/Los_Angeles"
  first := -28800
  changes := [⟨1741514400, -25200⟩, ⟨1762074000, -28800⟩]

/-- The clock, half past ten in the evening. -/
def nightClock : Clock := ⟨⟨1749879000999, by decide, by decide⟩, losAngeles⟩

/-- The rule for Friday nights. -/
def nightScope : Scope :=
  ⟨id 1, "night", [], none, none, some [.sat, .fri],
    some (time 22 29 60), some (time 5 0 0)⟩

/-- The rule, were it to start a second later. -/
def laterScope : Scope :=
  { nightScope with startTime := some (time 22 30 0) }

/-- The same time two weeks before. -/
def earlierNight : Instant := ⟨1748669400999, by decide, by decide⟩

end Sample

/-- The rule is active, although its window ends before it starts, and was so two
weeks before. Half past ten is the first time that is met in the window, also if it
starts there. -/
theorem isActive_iff_onward_night :
    Sample.earlierNight.millis = Sample.nightClock.now.millis + -2 * 604800000
      ∧ Sample.nightClock.zone.offsetAt Sample.earlierNight
          = Sample.nightClock.zone.offsetAt Sample.nightClock.now
      ∧ MetWithin Sample.nightScope.startTime Sample.nightScope.endTime 81000
      ∧ MetWithin Sample.laterScope.startTime Sample.laterScope.endTime 81000
      ∧ Sample.nightClock.isActive Sample.nightScope = true
      ∧ Clock.isActive ⟨Sample.earlierNight, Sample.nightClock.zone⟩ Sample.nightScope = true := by
  have hweeks : Sample.earlierNight.millis
      = Sample.nightClock.now.millis + -2 * 604800000 := by decide
  have hoffset : Sample.nightClock.zone.offsetAt Sample.earlierNight
      = Sample.nightClock.zone.offsetAt Sample.nightClock.now := by decide
  obtain ⟨hactive, -, hsame⟩ := Sample.nightClock.isActive_iff_onward Sample.nightScope
  obtain ⟨-, hseconds, -⟩ := Sample.nightClock.isActive_iff_onward Sample.laterScope
  have hnow : Sample.nightClock.isActive Sample.nightScope = true := by decide
  exact ⟨hweeks, hoffset, (hactive.mp hnow).2,
    (hseconds _ rfl _ rfl (by decide) (by decide)).mpr (by decide), hnow,
    (hsame _ _ hweeks hoffset).trans hnow⟩

end FleetCompliance
