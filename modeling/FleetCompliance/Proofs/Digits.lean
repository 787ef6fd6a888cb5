import FleetCompliance.Text.Integer
import Mathlib.Algebra.Order.Ring.Int
import Mathlib.Data.List.Basic

/-!
# Decimal digits

A number is written in decimal with as many digits as it has, or with zeros in
front up to some width. It is read by readers that stop at different places: at
the end of the text, after a given number of digits, or at the first character
that is no digit. What they have in common is the value of the digits read onto
a number (`Nat.ofDigitChars`), which splits wherever the digits are split. So
cutting off digits at the end is a division (`ofDigitChars_take`), and a number
is read from its digits whatever is written around them.

The readers of whole texts read nothing else: a text from which a number is read
writes it (`readUnsigned_eq_ok_iff`, `readSigned_eq_ok_iff`).
-/

namespace FleetCompliance.Text

/-- A character is a digit if it is one of ten. -/
theorem isDigit_iff {c : Char} : c.isDigit = true ↔ '0' ≤ c ∧ c ≤ '9' := by
  unfold Char.isDigit
  rw [Bool.and_eq_true, decide_eq_true_iff, decide_eq_true_iff]
  rfl

/-- Digits are read as such. -/
theorem digit?_of_isDigit {c : Char} (h : c.isDigit = true) :
    digit? c = some (c.toNat - '0'.toNat) := if_pos (isDigit_iff.mp h)

/-- Other characters are not read. -/
theorem digit?_of_not_isDigit {c : Char} (h : c.isDigit = false) : digit? c = none := by
  refine if_neg fun hc => ?_
  rw [isDigit_iff.mpr hc] at h
  exact nomatch h

/-- A digit is less than ten. -/
theorem digit_lt {c : Char} (h : c.isDigit = true) : c.toNat - '0'.toNat < 10 := by
  have hle : c.toNat ≤ 57 := (isDigit_iff.mp h).2
  show c.toNat - 48 < 10
  omega

/-! ## The value of digits -/

/-- Two ways to say what digits are worth. -/
theorem digitsValue_eq (ds : List Char) : digitsValue ds = Nat.ofDigitChars 10 ds 0 := by
  rw [digitsValue, Nat.ofDigitChars_eq_foldl]
  simp only [Nat.mul_comm 10]

/-- Digits do not make a number smaller. -/
theorem le_ofDigitChars (ds : List Char) (acc : ℕ) : acc ≤ Nat.ofDigitChars 10 ds acc := by
  rw [Nat.ofDigitChars_eq_ofDigitChars_zero]
  exact (Nat.le_mul_of_pos_left acc (Nat.pow_pos (by decide))).trans (Nat.le_add_right _ _)

/-- There are as many values as digits have room for. -/
theorem ofDigitChars_lt {ds : List Char} (h : ∀ c ∈ ds, c.isDigit = true) :
    Nat.ofDigitChars 10 ds 0 < 10 ^ ds.length := by
  induction ds with
  | nil => exact Nat.one_pos
  | cons c ds ih =>
    rw [List.forall_mem_cons] at h
    have hfirst : c.toNat - '0'.toNat ≤ 9 := Nat.le_of_lt_succ (digit_lt h.1)
    rw [Nat.ofDigitChars_cons, Nat.ofDigitChars_eq_ofDigitChars_zero, List.length_cons]
    calc 10 ^ ds.length * (10 * 0 + (c.toNat - '0'.toNat)) + Nat.ofDigitChars 10 ds 0
        < 10 ^ ds.length * 9 + 10 ^ ds.length :=
          Nat.add_lt_add_of_le_of_lt (Nat.mul_le_mul_left _ (by omega)) (ih h.2)
      _ = 10 ^ (ds.length + 1) := by rw [pow_succ]; omega

/-- **What is left of a number when its last digits are cut off.** -/
theorem ofDigitChars_take {ds : List Char} (h : ∀ c ∈ ds, c.isDigit = true) (n : ℕ) :
    Nat.ofDigitChars 10 (ds.take n) 0
      = Nat.ofDigitChars 10 ds 0 / 10 ^ (ds.drop n).length := by
  have hcut : Nat.ofDigitChars 10 (ds.drop n) 0 < 10 ^ (ds.drop n).length :=
    ofDigitChars_lt fun c hc => h c (List.mem_of_mem_drop hc)
  have hsplit : Nat.ofDigitChars 10 ds 0
      = 10 ^ (ds.drop n).length * Nat.ofDigitChars 10 (ds.take n) 0
        + Nat.ofDigitChars 10 (ds.drop n) 0 := by
    rw [← Nat.ofDigitChars_eq_ofDigitChars_zero, ← Nat.ofDigitChars_append, List.take_append_drop]
  rw [hsplit, Nat.mul_add_div (Nat.pow_pos (by decide)), Nat.div_eq_of_lt hcut, Nat.add_zero]

/-! ## Padded numbers -/

/-- A padded number is made of zeros and digits. -/
theorem toList_padded (width n : ℕ) : (padded width n).toList
    = List.replicate (width - (Nat.toDigits 10 n).length) '0' ++ Nat.toDigits 10 n :=
  String.toList_ofList

/-- A padded number is made of digits. -/
theorem isDigit_of_mem_padded {width n : ℕ} {c : Char} (h : c ∈ (padded width n).toList) :
    c.isDigit = true := by
  rw [toList_padded, List.mem_append] at h
  rcases h with hzero | hdigit
  · rw [List.eq_of_mem_replicate hzero]
    rfl
  · exact Nat.isDigit_of_mem_toDigits (by decide) (by decide) hdigit

/-- A number that fits is padded to its width. -/
theorem length_padded {width n : ℕ} (hwidth : 0 < width) (h : n < 10 ^ width) :
    (padded width n).toList.length = width := by
  have hlength := (Nat.length_toDigits_le_iff (b := 10) (by decide) hwidth).mpr h
  rw [toList_padded, List.length_append, List.length_replicate]
  omega

/-- Zeros in front do not change the value. -/
theorem ofDigitChars_padded (width n : ℕ) :
    Nat.ofDigitChars 10 (padded width n).toList 0 = n := by
  rw [toList_padded, Nat.ofDigitChars_append, Nat.ofDigitChars_replicate_zero, Nat.mul_zero,
    Nat.ofDigitChars_ten_toDigits]

/-! ## Whole texts -/

/-- **Digits up to the end are read**, if the number is within the bound. -/
theorem readDigits_of_isDigit {bound acc : ℕ} {ds : List Char} (beyond : IntegerFault)
    (h : ∀ c ∈ ds, c.isDigit = true) (hle : Nat.ofDigitChars 10 ds acc ≤ bound) :
    readDigits bound beyond acc ds = .ok (Nat.ofDigitChars 10 ds acc) := by
  induction ds generalizing acc with
  | nil => rfl
  | cons c ds ih =>
    rw [List.forall_mem_cons] at h
    rw [Nat.ofDigitChars_cons, Nat.mul_comm 10] at hle ⊢
    rw [readDigits, digit?_of_isDigit h.1]
    exact (if_pos ((le_ofDigitChars ds _).trans hle)).trans (ih h.2 hle)

/-- A character that is no digit makes a text no number. -/
theorem readDigits_of_not_isDigit (bound acc : ℕ) {cs : List Char} {c : Char}
    (beyond : IntegerFault) (hmem : c ∈ cs) (h : c.isDigit = false) :
    ∃ fault, readDigits bound beyond acc cs = .error fault := by
  induction cs generalizing acc with
  | nil => exact nomatch hmem
  | cons d cs ih =>
    rw [readDigits]
    cases hd : digit? d with
    | none => exact ⟨_, rfl⟩
    | some n =>
      have hne : c ≠ d := by
        rintro rfl
        rw [digit?_of_not_isDigit h] at hd
        exact nomatch hd
      dsimp only
      split
      · exact ih _ ((List.mem_cons.mp hmem).resolve_left hne)
      · exact ⟨_, rfl⟩

/-- A text that begins with a digit has no sign. -/
theorem readSigned_of_isDigit {bound : ℕ} {s : String} {c : Char} {cs : List Char}
    (hs : s.toList = c :: cs) (h : c.isDigit = true) :
    readSigned bound s = (readDigits bound .tooLarge 0 (c :: cs)).map Int.ofNat := by
  unfold readSigned
  rw [hs]
  split
  · contradiction
  · rename_i heq
    obtain ⟨rfl, -⟩ := List.cons.inj heq
    exact nomatch h
  · rename_i heq
    obtain ⟨rfl, -⟩ := List.cons.inj heq
    exact nomatch h
  · rfl

/-- The digits of a number are read up to any bound that it keeps. -/
theorem readMagnitude_toDigits {bound n : ℕ} (beyond : IntegerFault) (h : n ≤ bound) :
    readMagnitude bound beyond (Nat.toDigits 10 n) = .ok n := by
  have hvalue : Nat.ofDigitChars 10 (Nat.toDigits 10 n) 0 ≤ bound := by
    rwa [Nat.ofDigitChars_ten_toDigits]
  have hread := readDigits_of_isDigit beyond
    (fun _ => Nat.isDigit_of_mem_toDigits (by decide) (by decide)) hvalue
  rw [Nat.ofDigitChars_ten_toDigits] at hread
  unfold readMagnitude
  split
  · exact absurd ‹_› Nat.toDigits_ne_nil
  · exact hread

/-- **A number within the range is read from its decimal text**, be it negative
or not. -/
theorem readSigned_toString {bound : ℕ} {n : ℤ} (hlower : -(bound + 1 : ℤ) ≤ n)
    (hupper : n ≤ bound) : readSigned bound (toString n) = .ok n := by
  cases n with
  | ofNat m =>
    have htext : (toString (Int.ofNat m)).toList = Nat.toDigits 10 m := Nat.toList_repr
    have hread := readMagnitude_toDigits .tooLarge (Int.ofNat_le.mp hupper)
    obtain ⟨c, cs, hcons⟩ := List.exists_cons_of_ne_nil (Nat.toDigits_ne_nil (b := 10) (n := m))
    have hc : c.isDigit = true :=
      Nat.isDigit_of_mem_toDigits (by decide) (by decide) (hcons ▸ List.mem_cons_self)
    rw [hcons] at htext hread
    rw [readSigned_of_isDigit htext hc]
    exact congrArg (Except.map Int.ofNat) hread
  | negSucc m =>
    have htext : (toString (Int.negSucc m)).toList = '-' :: Nat.toDigits 10 (m + 1) := by
      show ("-" ++ Nat.repr (m + 1)).toList = _
      rw [String.toList_append, Nat.toList_repr]
      rfl
    have hread : readMagnitude (bound + 1) .tooSmall (Nat.toDigits 10 (m + 1)) = .ok (m + 1) :=
      readMagnitude_toDigits .tooSmall (by omega)
    unfold readSigned
    rw [htext]
    exact congrArg (Except.map fun n => -Int.ofNat n) hread

/-! ## Which texts are numbers -/

/-- **Digits that write a number**: one or more of them, and nothing else. -/
structure IsNumeral (cs : List Char) (n : ℕ) : Prop where
  ne_nil : cs ≠ []
  isDigit : ∀ c ∈ cs, c.isDigit = true
  value : Nat.ofDigitChars 10 cs 0 = n

/-- **A natural number as it may be written**: in digits, or with a plus in front. -/
inductive WritesNat (cs : List Char) (n : ℕ) : Prop where
  | bare (h : IsNumeral cs n)
  | plus {ds : List Char} (hcs : cs = '+' :: ds) (h : IsNumeral ds n)

/-- **An integer as it may be written**: in digits, with either sign in front or none. -/
inductive WritesInt (cs : List Char) : ℤ → Prop where
  | bare {n : ℕ} (h : IsNumeral cs n) : WritesInt cs n
  | plus {ds : List Char} {n : ℕ} (hcs : cs = '+' :: ds) (h : IsNumeral ds n) : WritesInt cs n
  | minus {ds : List Char} {n : ℕ} (hcs : cs = '-' :: ds) (h : IsNumeral ds n) : WritesInt cs (-n)

/-- What is read is what the digits are worth, and within the bound. -/
theorem readDigits_eq_ok_iff {bound acc n : ℕ} {beyond : IntegerFault} (hacc : acc ≤ bound)
    {cs : List Char} :
    readDigits bound beyond acc cs = .ok n
      ↔ (∀ c ∈ cs, c.isDigit = true) ∧ Nat.ofDigitChars 10 cs acc = n ∧ n ≤ bound := by
  constructor
  · intro h
    induction cs generalizing acc with
    | nil =>
      obtain rfl := Except.ok.inj h
      exact ⟨List.forall_mem_nil _, rfl, hacc⟩
    | cons c cs ih =>
      cases hc : c.isDigit with
      | false =>
        rw [readDigits, digit?_of_not_isDigit hc] at h
        exact nomatch h
      | true =>
        rw [readDigits, digit?_of_isDigit hc] at h
        dsimp only at h
        split at h
        · rename_i hle
          obtain ⟨hdigits, hvalue, hbound⟩ := ih hle h
          rw [Nat.ofDigitChars_cons, Nat.mul_comm 10]
          exact ⟨List.forall_mem_cons.mpr ⟨hc, hdigits⟩, hvalue, hbound⟩
        · exact nomatch h
  · rintro ⟨hdigits, rfl, hbound⟩
    exact readDigits_of_isDigit beyond hdigits hbound

/-- A magnitude is a numeral within the bound. -/
theorem readMagnitude_eq_ok_iff {bound n : ℕ} {beyond : IntegerFault} {cs : List Char} :
    readMagnitude bound beyond cs = .ok n ↔ IsNumeral cs n ∧ n ≤ bound := by
  unfold readMagnitude
  split
  · exact iff_of_false (fun h => nomatch h) (fun h => h.1.ne_nil rfl)
  · rename_i hne
    rw [readDigits_eq_ok_iff (Nat.zero_le bound)]
    exact ⟨fun ⟨hdigits, hvalue, hle⟩ => ⟨⟨hne, hdigits, hvalue⟩, hle⟩,
      fun ⟨h, hle⟩ => ⟨h.isDigit, h.value, hle⟩⟩

/-- A numeral has no sign. -/
theorem IsNumeral.head_ne {c : Char} {cs ds : List Char} {n : ℕ} (h : IsNumeral cs n)
    (hcs : cs = c :: ds) (hc : c.isDigit = false) : False := by
  have hdigit := h.isDigit c (hcs ▸ List.mem_cons_self)
  rw [hc] at hdigit
  exact nomatch hdigit

/-- **A number without sign bit is read** from the texts that write one, if it is within the
bound. -/
theorem readUnsigned_eq_ok_iff {bound n : ℕ} {s : String} :
    readUnsigned bound s = .ok n ↔ WritesNat s.toList n ∧ n ≤ bound := by
  unfold readUnsigned
  split
  · rename_i hs
    refine iff_of_false (fun h => nomatch h) ?_
    rintro ⟨h | ⟨hcs, -⟩, -⟩
    · exact h.ne_nil hs
    · rw [hs] at hcs
      exact nomatch hcs
  · rename_i ds hs
    rw [readMagnitude_eq_ok_iff, and_congr_left_iff]
    refine fun _ => Iff.intro (.plus hs) ?_
    rintro (h | ⟨hcs, h⟩)
    · exact (h.head_ne hs rfl).elim
    · obtain ⟨-, rfl⟩ := List.cons.inj (hs.symm.trans hcs)
      exact h
  · rename_i hplus
    rw [readMagnitude_eq_ok_iff, and_congr_left_iff]
    refine fun _ => Iff.intro .bare ?_
    rintro (h | ⟨hcs, h⟩)
    · exact h
    · exact (hplus _ hcs).elim

/-- What is read before a sign is put to it. -/
theorem map_readMagnitude_eq_ok_iff {bound : ℕ} {beyond : IntegerFault} {cs : List Char}
    {f : ℕ → ℤ} {n : ℤ} :
    (readMagnitude bound beyond cs).map f = .ok n
      ↔ ∃ m, IsNumeral cs m ∧ m ≤ bound ∧ f m = n := by
  cases hread : readMagnitude bound beyond cs with
  | error fault =>
    refine iff_of_false (fun h => nomatch h) ?_
    rintro ⟨m, hm, hle, -⟩
    rw [readMagnitude_eq_ok_iff.mpr ⟨hm, hle⟩] at hread
    exact nomatch hread
  | ok k =>
    obtain ⟨hk, hle⟩ := readMagnitude_eq_ok_iff.mp hread
    refine Iff.intro (fun h => ⟨k, hk, hle, Except.ok.inj h⟩) ?_
    rintro ⟨m, hm, -, rfl⟩
    rw [hm.value.symm.trans hk.value]
    rfl

/-- **A number from `-(bound + 1)` to `bound` is read** from the texts that write one. -/
theorem readSigned_eq_ok_iff {bound : ℕ} {n : ℤ} {s : String} :
    readSigned bound s = .ok n
      ↔ WritesInt s.toList n ∧ -(bound + 1 : ℤ) ≤ n ∧ n ≤ bound := by
  unfold readSigned
  split
  · rename_i hs
    rw [hs]
    refine iff_of_false (fun h => nomatch h) ?_
    rintro ⟨h | ⟨hcs, -⟩ | ⟨hcs, -⟩, -⟩
    · exact h.ne_nil rfl
    · exact nomatch hcs
    · exact nomatch hcs
  · rename_i ds hs
    rw [map_readMagnitude_eq_ok_iff, hs]
    constructor
    · rintro ⟨m, hm, hle, rfl⟩
      rw [Int.ofNat_eq_natCast]
      exact ⟨.plus rfl hm, by omega, Int.ofNat_le.mpr hle⟩
    · rintro ⟨h | @⟨_, m, hcs, h⟩ | ⟨hcs, -⟩, -, hle⟩
      · exact (h.head_ne rfl rfl).elim
      · obtain ⟨-, rfl⟩ := List.cons.inj hcs
        exact ⟨m, h, Int.ofNat_le.mp hle, rfl⟩
      · exact nomatch hcs
  · rename_i ds hs
    rw [map_readMagnitude_eq_ok_iff, hs]
    constructor
    · rintro ⟨m, hm, hle, rfl⟩
      show WritesInt _ (-(m : ℤ)) ∧ _ ≤ -(m : ℤ) ∧ -(m : ℤ) ≤ _
      exact ⟨.minus rfl hm, by omega, by omega⟩
    · rintro ⟨h | ⟨hcs, -⟩ | @⟨_, m, hcs, h⟩, hle, -⟩
      · exact (h.head_ne rfl rfl).elim
      · exact nomatch hcs
      · obtain ⟨-, rfl⟩ := List.cons.inj hcs
        exact ⟨m, h, by omega, rfl⟩
  · rename_i hplus hminus
    rw [map_readMagnitude_eq_ok_iff]
    constructor
    · rintro ⟨m, hm, hle, rfl⟩
      rw [Int.ofNat_eq_natCast]
      exact ⟨.bare hm, by omega, Int.ofNat_le.mpr hle⟩
    · rintro ⟨@⟨m, h⟩ | ⟨hcs, -⟩ | ⟨hcs, -⟩, -, hle⟩
      · exact ⟨m, h, Int.ofNat_le.mp hle, rfl⟩
      · exact (hplus _ hcs).elim
      · exact (hminus _ hcs).elim

end FleetCompliance.Text
