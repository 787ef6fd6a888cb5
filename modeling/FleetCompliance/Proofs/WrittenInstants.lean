import FleetCompliance.Calendar.Rfc3339
import FleetCompliance.Proofs.Calendar
import FleetCompliance.Proofs.Digits

/-!
# Instants are read back

An instant is printed in universal time and to the millisecond, but people write
it as their clock shows it, with an offset and with as many digits of a fraction
as they have. The offset may move the date into another month or year, and a
fraction may be finer than the instants are. What is read is still the instant
(`Instant.parse_written`): the offset that was put on the clock is taken
off again after the date has been turned into a day, and what is finer than a
millisecond is cut off, which for an instant before 1970 is not towards zero but
back in time, as in the division by which it was written.

A text is looked at as a number first. A date begins with digits too, so the
hyphen after the year is what keeps it from being read as a number of
milliseconds.
-/

namespace FleetCompliance.Instant

/-- The instant at the milliseconds of an instant. -/
theorem ofMillis?_millis (t : Instant) : ofMillis? t.millis = some t :=
  dif_pos ⟨t.earliest_le, t.le_latest⟩

/-! ## Texts -/

/-- A date and time with a fraction of a second and a zone. The time is given by
its second of the day. -/
def stamp (d : Date) (second : ℕ) (fraction zone : String) : String :=
  dateText d ++ "T" ++ Text.padded 2 (second / 3600) ++ ":" ++ Text.padded 2 (second / 60 % 60)
    ++ ":" ++ Text.padded 2 (second % 60) ++ "." ++ fraction ++ zone

/-- An offset from universal time, given in minutes, as sign, hours and minutes. -/
def zoneText (offset : ℤ) : String :=
  (if offset < 0 then "-" else "+") ++ Text.padded 2 (offset.natAbs / 60) ++ ":"
    ++ Text.padded 2 (offset.natAbs % 60)

/-- The text of an instant is that of its date and time, with three digits and the
letter of universal time. -/
theorem text_eq (t : Instant) :
    t.text = stamp (Date.ofDayNumber (t.millis / 86400000)) ((t.millis % 86400000).toNat / 1000)
      (Text.padded 3 ((t.millis % 86400000).toNat % 1000)) "Z" := by
  simp only [text, timeText, stamp, String.append_assoc]

/-! ## Parts of a text -/

/-- **A run of digits is read as far as the width goes.** -/
theorem digits?_append {ds : List Char} (h : ∀ c ∈ ds, c.isDigit = true) (acc : ℕ)
    (rest : List Char) :
    digits? ds.length acc (ds ++ rest) = some (Nat.ofDigitChars 10 ds acc, rest) := by
  induction ds generalizing acc with
  | nil => rfl
  | cons c ds ih =>
    rw [List.forall_mem_cons] at h
    rw [List.length_cons, List.cons_append, digits?, Text.digit?_of_isDigit h.1,
      Option.bind_eq_bind, Option.bind_some, ih h.2, Nat.ofDigitChars_cons, Nat.mul_comm 10]

/-- A padded number is read, whatever follows. -/
theorem digits?_padded {width n : ℕ} (hwidth : 0 < width) (h : n < 10 ^ width)
    (rest : List Char) :
    digits? width 0 ((Text.padded width n).toList ++ rest) = some (n, rest) := by
  have hread := digits?_append (fun c (hc : c ∈ (Text.padded width n).toList) =>
    Text.isDigit_of_mem_padded hc) 0 rest
  rwa [Text.length_padded hwidth h, Text.ofDigitChars_padded] at hread

/-- A number of two digits is read after its mark. -/
theorem afterMark?_padded {n : ℕ} (h : n < 100) (mark : Char) (rest : List Char) :
    afterMark? mark (mark :: ((Text.padded 2 n).toList ++ rest)) = some (n, rest) := by
  rw [afterMark?, if_pos rfl, digits?_padded (by decide) h]

/-- **A fraction is read up to the first character that is no digit.** -/
theorem fraction?_append {ds : List Char} (h : ∀ c ∈ ds, c.isDigit = true) (hne : ds ≠ [])
    {mark : Char} (hmark : mark.isDigit = false) (rest : List Char) :
    fraction? ('.' :: (ds ++ mark :: rest)) = some (fractionMillis ds, mark :: rest) := by
  have htake : (ds ++ mark :: rest).takeWhile Char.isDigit = ds := by
    rw [List.takeWhile_append_of_pos h, List.takeWhile_cons_of_neg (by simp [hmark]),
      List.append_nil]
  have hdrop : (ds ++ mark :: rest).dropWhile Char.isDigit = mark :: rest := by
    rw [List.dropWhile_append_of_pos h, List.dropWhile_cons_of_neg (by simp [hmark])]
  show (if ((ds ++ mark :: rest).takeWhile Char.isDigit).isEmpty then none
    else some (fractionMillis ((ds ++ mark :: rest).takeWhile Char.isDigit),
      (ds ++ mark :: rest).dropWhile Char.isDigit)) = _
  rw [htake, hdrop, if_neg (by simpa using hne)]

/-- **Digits after the third are cut off.** -/
theorem fractionMillis_padded {extra n : ℕ} (h : n < 10 ^ (3 + extra)) :
    fractionMillis (Text.padded (3 + extra) n).toList = n / 10 ^ extra := by
  have hlength := Text.length_padded (by omega) h
  have htake : ((Text.padded (3 + extra) n).toList ++ ['0', '0']).take 3
      = (Text.padded (3 + extra) n).toList.take 3 := List.take_append_of_le_length (by omega)
  have hdrop : ((Text.padded (3 + extra) n).toList.drop 3).length = extra := by
    rw [List.length_drop]
    omega
  rw [fractionMillis, htake, Text.digitsValue_eq,
    Text.ofDigitChars_take fun c hc => Text.isDigit_of_mem_padded hc, Text.ofDigitChars_padded,
    hdrop]

/-- The text of an offset begins with its sign. -/
theorem toList_zoneText (offset : ℤ) : (zoneText offset).toList
    = (if offset < 0 then '-' else '+') :: ((Text.padded 2 (offset.natAbs / 60)).toList
      ++ ':' :: ((Text.padded 2 (offset.natAbs % 60)).toList ++ [])) := by
  rw [zoneText, String.toList_append, String.toList_append, String.toList_append, List.append_nil,
    apply_ite String.toList, List.append_assoc, List.append_assoc]
  split <;> rfl

/-- **A sign with hours and minutes is an offset**, if they are those of a time of
day. -/
theorem offsetMinutes?_sign {sign : Char} (hsign : sign = '-' ∨ sign = '+') {hours minutes : ℕ}
    (hhours : hours < 24) (hminutes : minutes < 60) :
    offsetMinutes? (sign :: ((Text.padded 2 hours).toList
        ++ ':' :: ((Text.padded 2 minutes).toList ++ [])))
      = some (if sign = '-' then -(hours * 60 + minutes : ℤ) else hours * 60 + minutes) := by
  have hread := digits?_padded (show 0 < 2 by decide) (show hours < 10 ^ 2 by omega)
    (':' :: ((Text.padded 2 minutes).toList ++ []))
  have hread' := afterMark?_padded (show minutes < 100 by omega) ':' []
  unfold offsetMinutes?
  split
  · rename_i heq
    obtain ⟨rfl, -⟩ := List.cons.inj heq
    exact absurd hsign (by decide)
  · rename_i heq
    obtain ⟨rfl, -⟩ := List.cons.inj heq
    exact absurd hsign (by decide)
  · rename_i heq
    obtain ⟨rfl, rfl⟩ := List.cons.inj heq
    rw [hread]
    simp only [Option.bind_eq_bind, Option.bind_some, hread', hhours, hminutes]
    rcases hsign with rfl | rfl
    · rfl
    · rfl
  · contradiction

/-- **An offset of less than a day is read back.** -/
theorem offsetMinutes?_zoneText {offset : ℤ} (hlower : -1440 < offset) (hupper : offset < 1440) :
    offsetMinutes? (zoneText offset).toList = some offset := by
  have hhours : offset.natAbs / 60 < 24 := by omega
  have hminutes : offset.natAbs % 60 < 60 := by omega
  have hmagnitude : ((offset.natAbs / 60 : ℕ) * 60 + (offset.natAbs % 60 : ℕ) : ℤ)
      = offset.natAbs := by omega
  rw [toList_zoneText]
  by_cases hsign : offset < 0
  · rw [if_pos hsign, offsetMinutes?_sign (.inl rfl) hhours hminutes, if_pos rfl, hmagnitude]
    exact congrArg some (by omega)
  · rw [if_neg hsign, offsetMinutes?_sign (.inr rfl) hhours hminutes, if_neg (by decide),
      hmagnitude]
    exact congrArg some (by omega)

/-- A zone that is read as an offset, and that does not go on with the digits of the
fraction before it. -/
def IsZone (zone : String) (offset : ℤ) : Prop :=
  ∃ mark rest, zone.toList = mark :: rest ∧ mark.isDigit = false
    ∧ offsetMinutes? (mark :: rest) = some offset

/-- The letter of universal time is a zone. -/
theorem isZone_utc : IsZone "Z" 0 := ⟨'Z', [], rfl, rfl, rfl⟩

/-- An offset of less than a day is a zone. -/
theorem isZone_zoneText {offset : ℤ} (hlower : -1440 < offset) (hupper : offset < 1440) :
    IsZone (zoneText offset) offset := by
  have hoffset := offsetMinutes?_zoneText hlower hupper
  rw [toList_zoneText] at hoffset
  refine ⟨_, _, toList_zoneText offset, ?_, hoffset⟩
  split
  · rfl
  · rfl

/-! ## Whole texts -/

/-- The characters of a date and time, if the year needs no sign. -/
theorem toList_stamp {d : Date} (hyear : 0 ≤ d.year ∧ d.year ≤ 9999) (second : ℕ)
    (fraction zone : String) : (stamp d second fraction zone).toList
      = (Text.padded 4 d.year.toNat).toList ++ '-' :: ((Text.padded 2 d.month).toList
        ++ '-' :: ((Text.padded 2 d.day).toList ++ 'T' :: ((Text.padded 2 (second / 3600)).toList
        ++ ':' :: ((Text.padded 2 (second / 60 % 60)).toList
        ++ ':' :: ((Text.padded 2 (second % 60)).toList
        ++ '.' :: (fraction.toList ++ zone.toList)))))) := by
  simp [stamp, dateText, yearText, hyear]

/-- **A date and time is read as its milliseconds.** -/
theorem stampMillis?_stamp {d : Date} (hvalid : d.isValid = true)
    (hyear : 0 ≤ d.year ∧ d.year ≤ 9999) {second : ℕ} (hsecond : second < 86400)
    {fraction zone : String} (hfraction : ∀ c ∈ fraction.toList, c.isDigit = true)
    (hne : fraction.toList ≠ []) {offset : ℤ} (hzone : IsZone zone offset) :
    stampMillis? (stamp d second fraction zone)
      = some ((d.dayNumber * 86400 + second - offset * 60) * 1000
        + fractionMillis fraction.toList) := by
  obtain ⟨hmonth, hmonth', hday, hlength⟩ := Date.isValid_iff.mp hvalid
  have hday' : d.day ≤ 31 := hlength.trans (Date.daysInMonth_le _ _)
  obtain ⟨mark, rest, hzone, hmark, hoffset⟩ := hzone
  have hdate : (⟨(d.year.toNat : ℤ), d.month, d.day⟩ : Date) = d := by
    rw [Int.toNat_of_nonneg hyear.1]
  unfold stampMillis?
  rw [toList_stamp hyear, hzone, digits?_padded (by decide) (show d.year.toNat < 10 ^ 4 by omega)]
  simp only [Option.bind_eq_bind, Option.bind_some, hdate, hvalid,
    afterMark?_padded (show d.month < 100 by omega), afterMark?_padded (show d.day < 100 by omega),
    digits?_padded (show 0 < 2 by decide) (show second / 3600 < 10 ^ 2 by omega),
    afterMark?_padded (show second / 60 % 60 < 100 by omega),
    afterMark?_padded (show second % 60 < 100 by omega), fraction?_append hfraction hne hmark,
    hoffset]
  rw [if_pos (by simp; omega)]
  refine congrArg some ?_
  omega

/-- A date and time is no number, because of the hyphen after the year. -/
theorem readSigned_stamp {d : Date} (hyear : 0 ≤ d.year ∧ d.year ≤ 9999) (second : ℕ)
    (fraction zone : String) (bound : ℕ) :
    ∃ fault, Text.readSigned bound (stamp d second fraction zone) = .error fault := by
  have hlength := Text.length_padded (show 0 < 4 by decide)
    (show d.year.toNat < 10 ^ 4 by omega)
  obtain ⟨c, cs, hcons⟩ := List.exists_cons_of_length_pos
    (show 0 < (Text.padded 4 d.year.toNat).toList.length by omega)
  have hmem : c ∈ (Text.padded 4 d.year.toNat).toList := hcons ▸ List.mem_cons_self
  have hc : c.isDigit = true := Text.isDigit_of_mem_padded hmem
  have htext := toList_stamp hyear second fraction zone
  rw [hcons, List.cons_append] at htext
  rw [Text.readSigned_of_isDigit htext hc]
  obtain ⟨fault, hfault⟩ := Text.readDigits_of_not_isDigit bound 0 .tooLarge
    (List.mem_cons_of_mem c (List.mem_append_right cs List.mem_cons_self))
    (show Char.isDigit '-' = false by decide)
  exact ⟨fault, by rw [hfault]; rfl⟩

/-- **What a date and time is read as**, if its instant is one of the calendar. -/
theorem parse_stamp {d : Date} (hvalid : d.isValid = true)
    (hyear : 0 ≤ d.year ∧ d.year ≤ 9999) {second : ℕ} (hsecond : second < 86400)
    {fraction zone : String} (hfraction : ∀ c ∈ fraction.toList, c.isDigit = true)
    (hne : fraction.toList ≠ []) {offset : ℤ} (hzone : IsZone zone offset) {t : Instant}
    (ht : (d.dayNumber * 86400 + second - offset * 60) * 1000
      + fractionMillis fraction.toList = t.millis) :
    parse (stamp d second fraction zone) = .ok t := by
  obtain ⟨fault, hfault⟩ := readSigned_stamp hyear second fraction zone Text.maxInt64
  unfold parse
  rw [hfault, stampMillis?_stamp hvalid hyear hsecond hfraction hne hzone, ht]
  dsimp only
  rw [Option.bind_some, ofMillis?_millis]

/-! ## Instants as clocks show them -/

/-- What a clock shows that is ahead of universal time by some minutes, in parts of a
second that three digits and `extra` more can tell apart. -/
def shown (extra : ℕ) (offset moment : ℤ) : ℤ := moment + offset * 60 * 10 ^ (3 + extra)

/-- The date on that clock. -/
def shownDate (extra : ℕ) (offset moment : ℤ) : Date :=
  Date.ofDayNumber (shown extra offset moment / 10 ^ (3 + extra) / 86400)

/-- A moment as that clock shows it, followed by the offset. -/
def shownText (extra : ℕ) (offset moment : ℤ) : String :=
  stamp (shownDate extra offset moment)
    (shown extra offset moment / 10 ^ (3 + extra) % 86400).toNat
    (Text.padded (3 + extra) (shown extra offset moment % 10 ^ (3 + extra)).toNat)
    (zoneText offset)

/-- The clock is ahead by whole minutes, so it shows the fraction of the second. -/
theorem shown_emod (extra : ℕ) (offset moment : ℤ) :
    shown extra offset moment % 10 ^ (3 + extra) = moment % 10 ^ (3 + extra) :=
  Int.add_mul_emod_self_right _ _ _

/-- It shows a second that is ahead by as many. -/
theorem shown_ediv (extra : ℕ) (offset moment : ℤ) :
    shown extra offset moment / 10 ^ (3 + extra) = moment / 10 ^ (3 + extra) + offset * 60 :=
  Int.add_mul_ediv_right _ _ (ne_of_gt (pow_pos (by decide) _))

/-- **The milliseconds of a moment**, also before 1970: those of its whole seconds, and
those of its fraction. -/
theorem ediv_pow_ten (extra : ℕ) (moment : ℤ) :
    moment / 10 ^ (3 + extra) * 1000 + moment % 10 ^ (3 + extra) / 10 ^ extra
      = moment / 10 ^ extra := by
  have hsplit : moment % 10 ^ (3 + extra)
      + moment / 10 ^ (3 + extra) * 1000 * 10 ^ extra = moment := by
    have hparts : (1000 : ℤ) * 10 ^ extra = 10 ^ (3 + extra) := by rw [pow_add]; rfl
    rw [mul_assoc, hparts, Int.emod_add_ediv_mul]
  have hadd := Int.add_mul_ediv_right (moment % 10 ^ (3 + extra))
    (moment / 10 ^ (3 + extra) * 1000) (ne_of_gt (pow_pos (show (0 : ℤ) < 10 by decide) extra))
  rw [hsplit] at hadd
  omega

/-- **A moment that a clock shows is read to the millisecond**, rounded down. -/
theorem parse_shownText {extra : ℕ} {offset moment : ℤ} (hlower : -1440 < offset)
    (hupper : offset < 1440) (hyear : 0 ≤ (shownDate extra offset moment).year
      ∧ (shownDate extra offset moment).year ≤ 9999)
    {t : Instant} (ht : moment / 10 ^ extra = t.millis) :
    parse (shownText extra offset moment) = .ok t := by
  have hspec : (shownDate extra offset moment).isValid = true
      ∧ (shownDate extra offset moment).dayNumber
        = shown extra offset moment / 10 ^ (3 + extra) / 86400 := Date.ofDayNumber_spec _
  have hnonneg : 0 ≤ moment % 10 ^ (3 + extra) :=
    Int.emod_nonneg _ (ne_of_gt (pow_pos (by decide) _))
  have hwidth : (shown extra offset moment % 10 ^ (3 + extra)).toNat < 10 ^ (3 + extra) := by
    have hlt : moment % 10 ^ (3 + extra) < 10 ^ (3 + extra) :=
      Int.emod_lt_of_pos _ (pow_pos (by decide) _)
    rw [shown_emod, Int.toNat_lt hnonneg]
    exact_mod_cast hlt
  have hmillis : ((shown extra offset moment % 10 ^ (3 + extra)).toNat / 10 ^ extra : ℕ)
      = moment % 10 ^ (3 + extra) / 10 ^ extra := by
    rw [shown_emod, Int.natCast_ediv, Int.toNat_of_nonneg hnonneg, Nat.cast_pow]
    rfl
  refine parse_stamp hspec.1 hyear (by omega) (fun c hc => Text.isDigit_of_mem_padded hc)
    ?_ (isZone_zoneText hlower hupper) ?_
  · refine List.ne_nil_of_length_pos ?_
    rw [Text.length_padded (by omega) hwidth]
    omega
  · have hparts := ediv_pow_ten extra moment
    have hsecond := shown_ediv extra offset moment
    rw [fractionMillis_padded hwidth, hmillis, hspec.2, hsecond]
    omega

/-- The text of an instant is read back. -/
theorem parse_text {t : Instant} (hyear : 0 ≤ (Date.ofDayNumber (t.millis / 86400000)).year
      ∧ (Date.ofDayNumber (t.millis / 86400000)).year ≤ 9999) : parse t.text = .ok t := by
  have hspec := Date.ofDayNumber_spec (t.millis / 86400000)
  have hfraction := fractionMillis_padded
    (show (t.millis % 86400000).toNat % 1000 < 10 ^ (3 + 0) by omega)
  rw [text_eq]
  refine parse_stamp hspec.1 hyear (by omega) (fun c hc => Text.isDigit_of_mem_padded hc)
    ?_ isZone_utc ?_
  · refine List.ne_nil_of_length_pos ?_
    rw [Text.length_padded (by decide) (by omega)]
    decide
  · rw [hfraction, hspec.2]
    omega

/-- The number of milliseconds of an instant is read back. -/
theorem parse_millis (t : Instant) : parse (toString t.millis) = .ok t := by
  have hlower : -(Text.maxInt64 + 1 : ℤ) ≤ t.millis := le_trans (by decide) t.earliest_le
  have hupper : t.millis ≤ Text.maxInt64 := le_trans t.le_latest (by decide)
  have hnumber := Text.readSigned_toString hlower hupper
  unfold parse
  rw [hnumber]
  dsimp only
  rw [ofMillis?_millis]

/-- **An instant is read back from each of its texts**: from the one that is printed, from
what a clock shows that is ahead of universal time or behind it by less than a day, be it to the
millisecond or finer, and from the number of its milliseconds. Only dates of the
years from 0 to 9999 are read, on that clock. -/
theorem parse_written :
    (∀ t : Instant, 0 ≤ (Date.ofDayNumber (t.millis / 86400000)).year →
      (Date.ofDayNumber (t.millis / 86400000)).year ≤ 9999 → parse t.text = .ok t)
    ∧ (∀ (extra : ℕ) (offset moment : ℤ) (t : Instant), -1440 < offset → offset < 1440 →
      0 ≤ (shownDate extra offset moment).year → (shownDate extra offset moment).year ≤ 9999 →
      moment / 10 ^ extra = t.millis → parse (shownText extra offset moment) = .ok t)
    ∧ ∀ t : Instant, parse (toString t.millis) = .ok t :=
  ⟨fun _ hyear hyear' => parse_text ⟨hyear, hyear'⟩,
    fun _ _ _ _ hlower hupper hyear hyear' ht => parse_shownText hlower hupper ⟨hyear, hyear'⟩ ht,
    parse_millis⟩

/-- The last millisecond of 1969 is one of 1970 on a clock that is an hour ahead, and is
read from its last microsecond as well. -/
theorem parse_written_year_end :
    parse "1969-12-31T23:59:59.999Z" = .ok ⟨-1, by decide, by decide⟩
      ∧ parse "1970-01-01T00:59:59.999999+01:00" = .ok ⟨-1, by decide, by decide⟩
      ∧ parse "-1" = .ok ⟨-1, by decide, by decide⟩ := by
  have htext : text ⟨-1, by decide, by decide⟩ = "1969-12-31T23:59:59.999Z" := rfl
  have hshown : shownText 3 60 (-1) = "1970-01-01T00:59:59.999999+01:00" := rfl
  have hprinted := parse_written.1 ⟨-1, by decide, by decide⟩ (by decide)
    (by decide)
  have hclock := parse_written.2.1 3 60 (-1) ⟨-1, by decide, by decide⟩ (by decide) (by decide)
    (by decide) (by decide) (by decide)
  have hmillis := parse_written.2.2 ⟨-1, by decide, by decide⟩
  rw [htext] at hprinted
  rw [hshown] at hclock
  exact ⟨hprinted, hclock, hmillis⟩

end FleetCompliance.Instant
