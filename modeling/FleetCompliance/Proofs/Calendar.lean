import FleetCompliance.Calendar.Date
import Mathlib.Algebra.Order.Ring.Int

/-!
# Days and dates

A date is turned into the number of its day by adding up the days of the years
and months before it, and back by one division after the other, each with a
correction for the days that some years have more. That the way back is right
(`ofDayNumber_eq_iff`) does not follow from the shape of these formulas: how many
leap years to take off depends on the year, which is what one is looking for.

So the formula for the year is not solved but judged. It does not
decrease from one day to the next (`yearOfEra_mono`), and it is right on the
first and on the last day of each of the four hundred years after which the
calendar repeats itself; so it is right on the days between. The months need no
argument: a year has at most 366 days, counted from the first of March, and each of
them is looked at.
-/

namespace FleetCompliance.Date

/-! ## Years from March to February -/

/-- The days before a year that begins in March, counted from the first of March
of the year 0. -/
def daysBefore (year : ℤ) : ℤ := 365 * year + year / 4 - year / 100 + year / 400

/-- The year of four hundred that a day of theirs belongs to. -/
def yearOfEra (day : ℤ) : ℤ := (day - day / 1460 + day / 36524 - day / 146096) / 365

/-- The year, from March to February, of a day that is counted from the first of
March of the year 0. -/
def marchYear (day : ℤ) : ℤ := day / daysPerEra * 400 + yearOfEra (day % daysPerEra)

/-- The calendar repeats itself after four hundred years. -/
theorem daysBefore_add (era year : ℤ) :
    daysBefore (era * 400 + year) = era * daysPerEra + daysBefore year := by
  unfold daysBefore daysPerEra
  omega

/-- **A year ends with a leap day or without.** -/
theorem daysBefore_succ (year : ℤ) :
    daysBefore (year + 1) = daysBefore year + if isLeap (year + 1) then 366 else 365 := by
  have hleap : isLeap (year + 1) = true
      ↔ ((year + 1) % 4 = 0 ∧ (year + 1) % 100 ≠ 0) ∨ (year + 1) % 400 = 0 := by
    simp [isLeap]
  simp only [hleap]
  unfold daysBefore
  split <;> omega

/-- **A later day is in no earlier year**, by the formula. -/
theorem yearOfEra_mono {a b : ℤ} (h : a ≤ b) : yearOfEra a ≤ yearOfEra b := by
  have hquads : a - a / 1460 ≤ b - b / 1460 := by omega
  have hcenturies : a / 36524 ≤ b / 36524 := by omega
  have ha : a / 146096 = a / 36524 / 4 := by omega
  have hb : b / 146096 = b / 36524 / 4 := by omega
  unfold yearOfEra
  rw [ha, hb]
  generalize a / 36524 = p at *
  generalize b / 36524 = q at *
  omega

/-- The formula is right on the first day of a year. -/
theorem yearOfEra_first : ∀ year : ℕ, year < 400 → yearOfEra (daysBefore year) = year := by
  decide +kernel

/-- It is right on the last day of a year. -/
theorem yearOfEra_last : ∀ year : ℕ, year < 400 →
    yearOfEra (daysBefore (year + 1) - 1) = year := by
  decide +kernel

/-- The years of an era are numbered from 0 to 399. -/
theorem yearOfEra_bounds {day : ℤ} (hnonneg : 0 ≤ day) (hlt : day < daysPerEra) :
    0 ≤ yearOfEra day ∧ yearOfEra day < 400 := by
  have hfirst : yearOfEra 0 = 0 := yearOfEra_first 0 (by decide)
  have hlast : yearOfEra (daysPerEra - 1) = 399 := yearOfEra_last 399 (by decide)
  have hlower := yearOfEra_mono hnonneg
  have hupper := yearOfEra_mono (Int.le_sub_one_of_lt hlt)
  omega

/-- **A day of an era lies in the year that the formula gives.** -/
theorem yearOfEra_bounds_day {day : ℤ} (hnonneg : 0 ≤ day) (hlt : day < daysPerEra) :
    daysBefore (yearOfEra day) ≤ day ∧ day < daysBefore (yearOfEra day + 1) := by
  obtain ⟨hyear, hyear'⟩ := yearOfEra_bounds hnonneg hlt
  obtain ⟨y, hy⟩ := Int.eq_ofNat_of_zero_le hyear
  rw [hy] at hyear' ⊢
  constructor
  · by_contra hbefore
    -- then the day is no later than the last one of the year before
    cases y with
    | zero => exact hbefore hnonneg
    | succ y =>
      have hlast := yearOfEra_last y (by omega)
      have hle : yearOfEra day ≤ yearOfEra (daysBefore (y + 1) - 1) :=
        yearOfEra_mono (Int.le_sub_one_of_lt (not_le.mp hbefore))
      omega
  · by_contra hafter
    -- then it is no earlier than the first one of the next year, or of the next era
    rcases Nat.lt_or_ge (y + 1) 400 with hnext | hend
    · have hfirst := yearOfEra_first (y + 1) hnext
      have hle : yearOfEra (daysBefore (y + 1 : ℕ)) ≤ yearOfEra day :=
        yearOfEra_mono (not_lt.mp hafter)
      omega
    · obtain rfl : y = 399 := by omega
      exact hafter hlt

/-- Years follow each other. -/
theorem daysBefore_mono {a b : ℤ} (h : a ≤ b) : daysBefore a ≤ daysBefore b := by
  unfold daysBefore
  omega

/-- **A day belongs to the year in which it lies**, and to no other. -/
theorem marchYear_eq_iff {day year : ℤ} :
    marchYear day = year ↔ daysBefore year ≤ day ∧ day < daysBefore (year + 1) := by
  have hin : daysBefore (marchYear day) ≤ day ∧ day < daysBefore (marchYear day + 1) := by
    have hday := yearOfEra_bounds_day (Int.emod_nonneg day (by decide : daysPerEra ≠ 0))
      (Int.emod_lt_of_pos day (by decide : 0 < daysPerEra))
    have hdivision := Int.ediv_mul_add_emod day daysPerEra
    rw [marchYear, add_assoc, daysBefore_add, daysBefore_add]
    omega
  constructor
  · rintro rfl
    exact hin
  · rintro ⟨hbegun, hended⟩
    by_contra hne
    rcases Int.lt_or_gt_of_ne hne with hlt | hgt
    · have hle := daysBefore_mono (Int.add_one_le_of_lt hlt)
      omega
    · have hle := daysBefore_mono (Int.add_one_le_of_lt hgt)
      omega

/-! ## Months -/

/-- The month of a day, counted from the first of March. -/
def monthOf (day : ℤ) : ℕ :=
  (if (5 * day + 2) / 153 < 10 then (5 * day + 2) / 153 + 3 else (5 * day + 2) / 153 - 9).toNat

/-- The day of the month. -/
def dayOf (day : ℤ) : ℕ := (day - (153 * ((5 * day + 2) / 153) + 2) / 5 + 1).toNat

/-- The days from the first of March to a day of a month. -/
def daysFromMarch (month day : ℕ) : ℤ :=
  (153 * (((month + 9) % 12 : ℕ) : ℤ) + 2) / 5 + day - 1

/-- **Each day of a year has its place in a month**, the last one only in a month
with a leap day. -/
theorem daysFromMarch_monthOf : ∀ day : ℕ, day < 366 →
    daysFromMarch (monthOf day) (dayOf day) = day ∧ 1 ≤ monthOf day ∧ monthOf day ≤ 12
      ∧ 1 ≤ dayOf day ∧ dayOf day ≤ daysInMonth 2000 (monthOf day)
      ∧ (day < 365 → dayOf day ≤ daysInMonth 2001 (monthOf day)) := by
  decide +kernel

/-- **Each day of a month has its place in the year**, a leap day as the last one. -/
theorem monthOf_daysFromMarch : ∀ month < 13, ∀ day < 32,
    (1 ≤ month ∧ 1 ≤ day ∧ day ≤ daysInMonth 2000 month) →
      monthOf (daysFromMarch month day) = month ∧ dayOf (daysFromMarch month day) = day
        ∧ 0 ≤ daysFromMarch month day ∧ daysFromMarch month day < 366
        ∧ (day ≤ daysInMonth 2001 month → daysFromMarch month day < 365) := by
  decide +kernel

/-- No month is longer than 31 days. -/
theorem daysInMonth_le (year : ℤ) (month : ℕ) : daysInMonth year month ≤ 31 := by
  unfold daysInMonth
  split
  · split <;> omega
  · split <;> omega

/-- A leap year makes a difference to February only. -/
theorem daysInMonth_congr {year year' : ℤ} {month : ℕ}
    (h : month = 2 → isLeap year = isLeap year') :
    daysInMonth year month = daysInMonth year' month := by
  unfold daysInMonth
  by_cases hmonth : month = 2
  · rw [if_pos hmonth, if_pos hmonth, h hmonth]
  · rw [if_neg hmonth, if_neg hmonth]

/-- A day of a month is one of a leap year, and if it is not in a leap year also one
of another year. -/
theorem le_daysInMonth_iff {year : ℤ} {month day : ℕ} : day ≤ daysInMonth year month
    ↔ day ≤ daysInMonth 2000 month ∧ (isLeap year = false → day ≤ daysInMonth 2001 month) := by
  have hleap : isLeap 2000 = true ∧ isLeap 2001 = false := by decide
  unfold daysInMonth
  rw [hleap.1, hleap.2]
  by_cases hmonth : month = 2
  · rw [if_pos hmonth, if_pos hmonth, if_pos hmonth]
    cases isLeap year with
    | false =>
      show day ≤ 28 ↔ day ≤ 29 ∧ (_ → day ≤ 28)
      exact ⟨fun h => ⟨by omega, fun _ => h⟩, fun h => h.2 rfl⟩
    | true => simp
  · rw [if_neg hmonth, if_neg hmonth, if_neg hmonth]
    exact ⟨fun h => ⟨h, fun _ => h⟩, And.left⟩

/-! ## Dates -/

/-- The year from March to February that a date belongs to. -/
def beganInMarch (d : Date) : ℤ := if d.month ≤ 2 then d.year - 1 else d.year

/-- A day is numbered by its year and its place in it. -/
theorem dayNumber_eq (d : Date) :
    d.dayNumber = daysBefore d.beganInMarch + daysFromMarch d.month d.day - epochShift := by
  have hsplit := daysBefore_add (d.beganInMarch / 400) (d.beganInMarch % 400)
  rw [Int.ediv_mul_add_emod] at hsplit
  rw [hsplit]
  show d.beganInMarch / 400 * daysPerEra + (d.beganInMarch % 400 * 365 + d.beganInMarch % 400 / 4
    - d.beganInMarch % 400 / 100 + daysFromMarch d.month d.day) - epochShift = _
  unfold daysBefore
  omega

/-- A date is found from its year and its place in it. -/
theorem ofDayNumber_eq {n year day : ℤ} (hyear : marchYear (n + epochShift) = year)
    (hday : day = n + epochShift - daysBefore year) :
    ofDayNumber n = ⟨if monthOf day ≤ 2 then year + 1 else year, monthOf day, dayOf day⟩ := by
  have hbounds := yearOfEra_bounds (Int.emod_nonneg (n + epochShift) (by decide : daysPerEra ≠ 0))
    (Int.emod_lt_of_pos (n + epochShift) (by decide : 0 < daysPerEra))
  have hplace : day = (n + epochShift) % daysPerEra
      - (365 * yearOfEra ((n + epochShift) % daysPerEra)
      + yearOfEra ((n + epochShift) % daysPerEra) / 4
      - yearOfEra ((n + epochShift) % daysPerEra) / 100) := by
    have hdivision := Int.ediv_mul_add_emod (n + epochShift) daysPerEra
    rw [hday, ← hyear, marchYear, daysBefore_add]
    unfold daysBefore
    omega
  have hmonth (x : ℤ) : x.toNat ≤ 2 ↔ x ≤ 2 := by omega
  rw [← hyear, hplace]
  simp only [monthOf, hmonth]
  rfl

/-- A date exists if its day is one of its month. -/
theorem isValid_iff {d : Date} : d.isValid = true
    ↔ 1 ≤ d.month ∧ d.month ≤ 12 ∧ 1 ≤ d.day ∧ d.day ≤ daysInMonth d.year d.month := by
  simp [isValid, and_assoc]

/-- The length of a month that a date is in is told by the year that begins in
March. -/
theorem daysInMonth_beganInMarch (d : Date) :
    daysInMonth d.year d.month = daysInMonth (d.beganInMarch + 1) d.month := by
  refine daysInMonth_congr fun hmonth => ?_
  rw [beganInMarch, if_pos (by omega), sub_add_cancel]

/-- **The date of a day exists, and has its number.** -/
theorem ofDayNumber_spec (n : ℤ) :
    (ofDayNumber n).isValid = true ∧ (ofDayNumber n).dayNumber = n := by
  obtain ⟨year, hyear⟩ : ∃ year, marchYear (n + epochShift) = year := ⟨_, rfl⟩
  obtain ⟨hbegun, hended⟩ := marchYear_eq_iff.mp hyear
  obtain ⟨k, hk⟩ := Int.eq_ofNat_of_zero_le (sub_nonneg.mpr hbegun)
  rw [daysBefore_succ] at hended
  have hk366 : k < 366 := by
    split at hended <;> omega
  obtain ⟨hplace, hmonth, hmonth', hday, hlength, hlength'⟩ := daysFromMarch_monthOf k hk366
  rw [ofDayNumber_eq hyear hk.symm]
  set d : Date := ⟨if monthOf k ≤ 2 then year + 1 else year, monthOf k, dayOf k⟩ with hd
  have hyear' : d.beganInMarch = year := by
    unfold beganInMarch
    rw [hd]
    dsimp only
    split <;> omega
  refine ⟨isValid_iff.mpr ⟨hmonth, hmonth', hday, ?_⟩, ?_⟩
  · rw [daysInMonth_beganInMarch, hyear', le_daysInMonth_iff]
    refine ⟨hlength, fun hleap => hlength' ?_⟩
    rw [hleap] at hended
    simp only [Bool.false_eq_true, if_false] at hended
    omega
  · rw [dayNumber_eq, hyear', show daysFromMarch d.month d.day = k from hplace]
    omega

/-- **A date that exists is the date of its day.** -/
theorem ofDayNumber_dayNumber {d : Date} (h : d.isValid = true) : ofDayNumber d.dayNumber = d := by
  obtain ⟨hmonth, hmonth', hday, hlength⟩ := isValid_iff.mp h
  have hday' : d.day < 32 := Nat.lt_succ_of_le (hlength.trans (daysInMonth_le _ _))
  rw [daysInMonth_beganInMarch, le_daysInMonth_iff] at hlength
  obtain ⟨hmonthOf, hdayOf, hnonneg, hlt, hlt'⟩ :=
    monthOf_daysFromMarch d.month (by omega) d.day hday' ⟨hmonth, hday, hlength.1⟩
  have hnumber := d.dayNumber_eq
  have hyear : marchYear (d.dayNumber + epochShift) = d.beganInMarch := by
    rw [marchYear_eq_iff, daysBefore_succ]
    refine ⟨by omega, ?_⟩
    split
    · omega
    · rename_i hleap
      have hcommon := hlt' (hlength.2 (Bool.eq_false_iff.mpr hleap))
      omega
  have hyear' : (if d.month ≤ 2 then d.beganInMarch + 1 else d.beganInMarch) = d.year := by
    unfold beganInMarch
    split <;> omega
  have hplace : daysFromMarch d.month d.day
      = d.dayNumber + epochShift - daysBefore d.beganInMarch := by omega
  rw [ofDayNumber_eq hyear hplace, hmonthOf, hdayOf, hyear']

/-- **Days and dates are one to one.** The date of a day is the one that exists and has
the number of the day. -/
theorem ofDayNumber_eq_iff {n : ℤ} {d : Date} :
    ofDayNumber n = d ↔ d.isValid = true ∧ d.dayNumber = n := by
  constructor
  · rintro rfl
    exact ofDayNumber_spec n
  · rintro ⟨hvalid, rfl⟩
    exact ofDayNumber_dayNumber hvalid

end FleetCompliance.Date
