import FleetCompliance.Text.Integer
import Mathlib.Data.Char
import Mathlib.Data.List.Lex
import Mathlib.Data.Nat.Digits.Lemmas

/-!
# Hexadecimal digits

A number of a fixed width is written in hexadecimal with its most significant
digit first, and read with letters of either case. What the two have in common
are the values of the digits: a list of numbers below sixteen, whose own value
is known to the library (`Nat.ofDigits`), once it is turned around.

Comparing is easier on these values than on the digits. Of two lists of one
length, the one that is less at the first difference has the smaller value,
in any base (`ofDigits_reverse_lt_iff`), since all that comes after a digit is
less than one more of it. The digits follow, because `0` to `9` stand before
`a` to `f` among the characters. They do so in one case only: `B` stands before
`a`, so digits of mixed case say nothing about the order of numbers.
-/

namespace FleetCompliance

/-! ## Lists compared at their first difference -/

section Lexicographic

variable {α β : Type} [LinearOrder α] [LinearOrder β]

/-- Lists with beginnings of one length are compared there, and only then in
what follows. -/
theorem append_lt_append_iff {a b c d : List α} (h : a.length = b.length) :
    a ++ c < b ++ d ↔ a < b ∨ a = b ∧ c < d := by
  induction a generalizing b with
  | nil =>
    obtain rfl := List.eq_nil_of_length_eq_zero h.symm
    simp
  | cons x a ih =>
    cases b with
    | nil => exact nomatch h
    | cons y b =>
      rw [List.cons_append, List.cons_append, List.cons_lt_cons_iff, List.cons_lt_cons_iff,
        ih (Nat.succ.inj h), List.cons_eq_cons]
      tauto

/-- A comparison is kept by a map that keeps the order of the elements at hand. -/
theorem map_lt_map_iff_of_strictMonoOn {f : α → β} {s : Set α} (hf : StrictMonoOn f s)
    {l m : List α} (hl : ∀ a ∈ l, a ∈ s) (hm : ∀ a ∈ m, a ∈ s) :
    l.map f < m.map f ↔ l < m := by
  induction l generalizing m with
  | nil => cases m <;> simp
  | cons a l ih =>
    cases m with
    | nil => simp
    | cons b m =>
      rw [List.forall_mem_cons] at hl hm
      rw [List.map_cons, List.map_cons, List.cons_lt_cons_iff, List.cons_lt_cons_iff,
        hf.lt_iff_lt hl.1 hm.1, hf.injOn.eq_iff hl.1 hm.1, ih hl.2 hm.2]

end Lexicographic

/-- Numbers are compared by what they have in full, and only then by what is
left over. -/
theorem add_mul_lt_add_mul_iff {b r r' q q' : ℕ} (hr : r < b) (hr' : r' < b) :
    r + b * q < r' + b * q' ↔ q < q' ∨ q = q' ∧ r < r' := by
  rcases lt_trichotomy q q' with hlt | rfl | hgt
  · have hfull : b * (q + 1) ≤ b * q' := Nat.mul_le_mul_left b hlt
    rw [Nat.mul_succ] at hfull
    exact iff_of_true (by omega) (.inl hlt)
  · simp
  · have hfull : b * (q' + 1) ≤ b * q := Nat.mul_le_mul_left b hgt
    rw [Nat.mul_succ] at hfull
    exact iff_of_false (by omega) (by omega)

/-- The last digit counts once, and all before it in multiples of the base. -/
theorem ofDigits_reverse_concat (b : ℕ) (ds : List ℕ) (d : ℕ) :
    Nat.ofDigits b (ds ++ [d]).reverse = d + b * Nat.ofDigits b ds.reverse := by
  rw [List.reverse_append, List.reverse_singleton, List.singleton_append, Nat.ofDigits_cons]

/-- Digits have room for so many values. -/
theorem ofDigits_reverse_lt {b : ℕ} (hb : 1 < b) {ds : List ℕ} (hds : ∀ d ∈ ds, d < b) :
    Nat.ofDigits b ds.reverse < b ^ ds.length := by
  rw [← List.length_reverse]
  exact Nat.ofDigits_lt_base_pow_length hb fun d hd => hds d (List.mem_reverse.mp hd)

/-- **Of two lists of digits the lesser one has the smaller value**, if they
are of one length and have the most significant digit first. -/
theorem ofDigits_reverse_lt_iff {b : ℕ} (hb : 1 < b) {ds es : List ℕ}
    (hlength : ds.length = es.length) (hds : ∀ d ∈ ds, d < b) (hes : ∀ d ∈ es, d < b) :
    Nat.ofDigits b ds.reverse < Nat.ofDigits b es.reverse ↔ ds < es := by
  induction ds generalizing es with
  | nil =>
    obtain rfl := List.eq_nil_of_length_eq_zero hlength.symm
    simp
  | cons d ds ih =>
    cases es with
    | nil => exact nomatch hlength
    | cons e es =>
      rw [List.forall_mem_cons] at hds hes
      have hlength : ds.length = es.length := Nat.succ.inj hlength
      have hrest := ofDigits_reverse_lt hb hds.2
      rw [hlength] at hrest
      rw [Nat.ofDigits_reverse_cons, Nat.ofDigits_reverse_cons, hlength,
        add_mul_lt_add_mul_iff hrest (ofDigits_reverse_lt hb hes.2), List.cons_lt_cons_iff,
        ih hlength hds.2 hes.2]

namespace Text

/-! ## Single digits -/

/-- The digits that are written are the library's. -/
theorem hexDigit_eq_digitChar : ∀ d < 16, hexDigit d = Nat.digitChar d := by decide

/-- Digits are ordered as their values. -/
theorem strictMonoOn_digitChar : StrictMonoOn Nat.digitChar (Set.Iio 16) := by
  have hdigits : ∀ d < 16, ∀ e < 16, d < e → Nat.digitChar d < Nat.digitChar e := by decide
  exact fun d hd e he hlt => hdigits d hd e he hlt

/-- Characters that are read as digits are among the first 128. -/
theorem toNat_lt_of_hexValue? {c : Char} {d : ℕ} (h : hexValue? c = some d) : c.toNat < 128 := by
  have htop {last : Char} (hc : c ≤ last) (hlast : last.toNat < 128) : c.toNat < 128 :=
    lt_of_le_of_lt hc hlast
  unfold hexValue? at h
  split at h
  · exact htop ‹_ ∧ _›.2 (by decide)
  · split at h
    · exact htop ‹_ ∧ _›.2 (by decide)
    · split at h
      · exact htop ‹_ ∧ _›.2 (by decide)
      · exact nomatch h

/-- Characters beyond the first 128 have no case. -/
theorem toLower_eq_self_of_le {c : Char} (h : 128 ≤ c.toNat) : c.toLower = c := by
  refine dif_neg fun hupper => ?_
  have hle : c.toNat ≤ 90 := hupper.2
  omega

/-- **A digit is read in either case**, and its value is that of the lower-case
digit. -/
theorem hexValue?_eq_some_iff {c : Char} {d : ℕ} :
    hexValue? c = some d ↔ d < 16 ∧ c.toLower = Nat.digitChar d := by
  have hascii : ∀ n < 128, ∀ v < 16,
      hexValue? (Char.ofNat n) = some v ↔ (Char.ofNat n).toLower = Nat.digitChar v := by decide
  have hbound : ∀ n < 128, ∀ v ∈ hexValue? (Char.ofNat n), v < 16 := by decide
  have hwritten : ∀ v < 16, (Nat.digitChar v).toNat < 128 := by decide
  constructor
  · intro h
    have hc := toNat_lt_of_hexValue? h
    rw [← Char.ofNat_toNat c] at h ⊢
    have hd := hbound _ hc d h
    exact ⟨hd, (hascii _ hc d hd).mp h⟩
  · rintro ⟨hd, h⟩
    have hc : c.toNat < 128 := by
      by_contra hle
      rw [toLower_eq_self_of_le (not_lt.mp hle)] at h
      exact hle (h ▸ hwritten d hd)
    rw [← Char.ofNat_toNat c] at h ⊢
    exact (hascii _ hc d hd).mpr h

/-! ## What digits write -/

/-- **Hexadecimal digits that write a number**: the most significant one first,
and every letter in either case. -/
def WritesHex (cs : List Char) (n : ℕ) : Prop :=
  ∃ ds : List ℕ, (∀ d ∈ ds, d < 16) ∧ cs.map Char.toLower = ds.map Nat.digitChar
    ∧ Nat.ofDigits 16 ds.reverse = n

/-- No digit writes zero. -/
theorem writesHex_nil_iff {n : ℕ} : WritesHex [] n ↔ n = 0 := by
  constructor
  · rintro ⟨ds, -, hchars, rfl⟩
    obtain rfl := List.map_eq_nil_iff.mp hchars.symm
    rfl
  · rintro rfl
    exact ⟨[], List.forall_mem_nil _, rfl, rfl⟩

/-- **One more digit** is added to sixteen times what stands before it. -/
theorem writesHex_concat_iff {cs : List Char} {c : Char} {n : ℕ} :
    WritesHex (cs ++ [c]) n
      ↔ ∃ m d, WritesHex cs m ∧ hexValue? c = some d ∧ m * 16 + d = n := by
  constructor
  · rintro ⟨ds, hds, hchars, rfl⟩
    rw [List.map_append] at hchars
    obtain ⟨es, fs, rfl, hes, hfs⟩ := List.append_eq_map_iff.mp hchars
    obtain ⟨d, rest, rfl, hd, hrest⟩ := List.map_eq_cons_iff.mp hfs
    obtain rfl := List.map_eq_nil_iff.mp hrest
    rw [List.forall_mem_append, List.forall_mem_singleton] at hds
    refine ⟨_, d, ⟨es, hds.1, hes.symm, rfl⟩, hexValue?_eq_some_iff.mpr ⟨hds.2, hd.symm⟩, ?_⟩
    rw [ofDigits_reverse_concat, add_comm, mul_comm]
  · rintro ⟨_, d, ⟨ds, hds, hchars, rfl⟩, hd, rfl⟩
    obtain ⟨hlt, hc⟩ := hexValue?_eq_some_iff.mp hd
    refine ⟨ds ++ [d], ?_, ?_, ?_⟩
    · exact List.forall_mem_append.mpr ⟨hds, List.forall_mem_singleton.mpr hlt⟩
    · rw [List.map_append, List.map_append, hchars, List.map_singleton, List.map_singleton, hc]
    · rw [ofDigits_reverse_concat, add_comm, mul_comm]

/-- A digit is read onto what is left of it. -/
theorem ofHexDigits?_cons (acc : ℕ) (c : Char) (cs : List Char) :
    ofHexDigits? acc (c :: cs) = (hexValue? c).bind fun d => ofHexDigits? (acc * 16 + d) cs := rfl

/-- Digits are read from the left. -/
theorem ofHexDigits?_append (acc : ℕ) (xs ys : List Char) :
    ofHexDigits? acc (xs ++ ys) = (ofHexDigits? acc xs).bind fun n => ofHexDigits? n ys := by
  induction xs generalizing acc with
  | nil => rfl
  | cons x xs ih =>
    rw [List.cons_append, ofHexDigits?_cons, ofHexDigits?_cons, Option.bind_assoc]
    simp only [ih]

/-- **Digits are read as the number that they write**, and nothing else is. -/
theorem ofHexDigits?_eq_some_iff {cs : List Char} {n : ℕ} :
    ofHexDigits? 0 cs = some n ↔ WritesHex cs n := by
  induction cs using List.reverseRecOn generalizing n with
  | nil => rw [writesHex_nil_iff, ofHexDigits?, Option.some.injEq, eq_comm]
  | append_singleton cs c ih =>
    rw [writesHex_concat_iff, ofHexDigits?_append, Option.bind_eq_some_iff]
    refine exists_congr fun m => ?_
    rw [ih, ofHexDigits?_cons, Option.bind_eq_some_iff, exists_and_left]
    simp only [ofHexDigits?, Option.some.injEq]

/-- Digits begin with a digit. -/
theorem WritesHex.exists_head {c : Char} {cs : List Char} {n : ℕ} (h : WritesHex (c :: cs) n) :
    ∃ d, hexValue? c = some d := by
  have hread := ofHexDigits?_eq_some_iff.mpr h
  rw [ofHexDigits?_cons, Option.bind_eq_some_iff] at hread
  exact hread.imp fun _ => And.left

/-! ## Printed digits -/

/-- As many digits are printed as are asked for. -/
theorem length_hexDigits (width n : ℕ) : (hexDigits width n).length = width := by
  induction width generalizing n with
  | zero => rfl
  | succ width ih => simp [hexDigits, ih]

/-- What is printed are the values of the last digits of a number, in lower
case. -/
theorem exists_hexDigits_eq_map (width n : ℕ) :
    ∃ ds : List ℕ, ds.length = width ∧ (∀ d ∈ ds, d < 16)
      ∧ hexDigits width n = ds.map Nat.digitChar
      ∧ Nat.ofDigits 16 ds.reverse = n % 16 ^ width := by
  induction width generalizing n with
  | zero => exact ⟨[], rfl, List.forall_mem_nil _, rfl, (Nat.mod_one n).symm⟩
  | succ width ih =>
    obtain ⟨ds, rfl, hds, hdigits, hvalue⟩ := ih (n / 16)
    have hlast : n % 16 < 16 := Nat.mod_lt n (by decide)
    refine ⟨ds ++ [n % 16], List.length_append, ?_, ?_, ?_⟩
    · exact List.forall_mem_append.mpr ⟨hds, List.forall_mem_singleton.mpr hlast⟩
    · rw [hexDigits, hdigits, hexDigit_eq_digitChar _ hlast, List.map_append, List.map_singleton]
    · rw [ofDigits_reverse_concat, hvalue, Nat.pow_succ', Nat.mod_mul]

/-- Digits in lower case stay as they are. -/
theorem map_toLower_map_digitChar {ds : List ℕ} (hds : ∀ d ∈ ds, d < 16) :
    (ds.map Nat.digitChar).map Char.toLower = ds.map Nat.digitChar := by
  have hdigits : ∀ d < 16, (Nat.digitChar d).toLower = Nat.digitChar d := by decide
  rw [List.map_map]
  exact List.map_congr_left fun d hd => hdigits d (hds d hd)

/-- A number is written by its printed digits, if there are enough of them. -/
theorem writesHex_hexDigits {width n : ℕ} (h : n < 16 ^ width) :
    WritesHex (hexDigits width n) n := by
  obtain ⟨ds, -, hds, hdigits, hvalue⟩ := exists_hexDigits_eq_map width n
  rw [Nat.mod_eq_of_lt h] at hvalue
  exact ⟨ds, hds, by rw [hdigits, map_toLower_map_digitChar hds], hvalue⟩

/-- **Whichever case the letters have, in lower case they are the printed
digits.** -/
theorem WritesHex.map_toLower {cs : List Char} {n : ℕ} (h : WritesHex cs n) :
    cs.map Char.toLower = hexDigits cs.length n := by
  obtain ⟨ds, hds, hchars, rfl⟩ := h
  have hcount : ds.length = cs.length := by
    rw [← List.length_map Nat.digitChar, ← hchars, List.length_map]
  have hlt := ofDigits_reverse_lt (by decide) hds
  rw [hcount] at hlt
  obtain ⟨es, hlength, hes, hdigits, hvalue⟩ :=
    exists_hexDigits_eq_map cs.length (Nat.ofDigits 16 ds.reverse)
  rw [Nat.mod_eq_of_lt hlt] at hvalue
  -- digits of one length have one value only if they are the same
  have heq : es.reverse = ds.reverse :=
    Nat.ofDigits_inj_of_len_eq (by decide)
      (by rw [List.length_reverse, List.length_reverse, hlength, hcount])
      (fun d hd => hes d (List.mem_reverse.mp hd)) (fun d hd => hds d (List.mem_reverse.mp hd))
      hvalue
  rw [hchars, hdigits, List.reverse_injective heq]

/-- **Printed digits are ordered as the numbers**, if they are of one width. -/
theorem hexDigits_lt_hexDigits_iff {width m n : ℕ} (hm : m < 16 ^ width) (hn : n < 16 ^ width) :
    hexDigits width m < hexDigits width n ↔ m < n := by
  obtain ⟨ds, hlength, hds, hdigits, hvalue⟩ := exists_hexDigits_eq_map width m
  obtain ⟨es, rfl, hes, hdigits', hvalue'⟩ := exists_hexDigits_eq_map width n
  rw [hdigits, hdigits', map_lt_map_iff_of_strictMonoOn strictMonoOn_digitChar hds hes,
    ← ofDigits_reverse_lt_iff (by decide) hlength hds hes, hvalue, hvalue', Nat.mod_eq_of_lt hm,
    Nat.mod_eq_of_lt hn]

end Text

end FleetCompliance
