import FleetCompliance.Identifier
import FleetCompliance.Proofs.Hexadecimal
import Mathlib.Data.String.Basic

/-!
# The forms of an identifier

An identifier may be written in four forms: as 32 digits, as digits in five
groups, as such groups in braces, and as groups behind the scheme. The letters
may be of either case throughout. Only one of all these texts is printed, the
one in groups and in lower case, and it is found from any hyphenated one by
writing that in lower case (`IsHyphenated.map_toLower`).

A reader cannot know in advance which form a text has, and tries to tell from
how it begins and how long it is. That this never goes wrong depends on the
digits: none of them is a brace or begins the scheme, and 32 characters are too
few for groups. So a text is read as an identifier exactly if it has one of the
forms (`parse?_eq_some_iff`).

Since all printed forms have their hyphens at the same places, they are
compared as their digits are, and so are the 16 octets of an identifier: both
are the order of the numbers (`text_lt_text_iff`, `octets_lt_octets_iff`).
-/

namespace FleetCompliance

namespace Identifier

variable {e : Entity} {i j : Identifier e} {n : ℕ} {lengths : List ℕ} {cs ds : List Char}

/-! ## Groups -/

/-- **Characters in groups** of given lengths, with a hyphen between two of
them, and what they are without the hyphens. -/
def Grouped (lengths : List ℕ) (cs ds : List Char) : Prop :=
  ∃ pieces : List (List Char), pieces.map List.length = lengths
    ∧ ['-'].intercalate pieces = cs ∧ pieces.flatten = ds

/-- Without groups there are no characters. -/
theorem grouped_nil_iff : Grouped [] cs ds ↔ cs = [] ∧ ds = [] := by
  constructor
  · rintro ⟨pieces, hlengths, rfl, rfl⟩
    obtain rfl := List.map_eq_nil_iff.mp hlengths
    exact ⟨rfl, rfl⟩
  · rintro ⟨rfl, rfl⟩
    exact ⟨[], rfl, rfl, rfl⟩

/-- A single group has no hyphens. -/
theorem grouped_singleton_iff : Grouped [n] cs ds ↔ cs.length = n ∧ cs = ds := by
  constructor
  · rintro ⟨pieces, hlengths, rfl, rfl⟩
    obtain ⟨piece, rest, rfl, rfl, hrest⟩ := List.map_eq_cons_iff.mp hlengths
    obtain rfl := List.map_eq_nil_iff.mp hrest
    simp
  · rintro ⟨rfl, rfl⟩
    exact ⟨[cs], by simp⟩

/-- Behind the first of several groups there is a hyphen. -/
theorem grouped_cons_cons_iff {m : ℕ} :
    Grouped (n :: m :: lengths) cs ds
      ↔ ∃ first more rest, first.length = n ∧ cs = first ++ '-' :: more
          ∧ Grouped (m :: lengths) more rest ∧ ds = first ++ rest := by
  constructor
  · rintro ⟨pieces, hlengths, rfl, rfl⟩
    obtain ⟨first, others, rfl, rfl, hothers⟩ := List.map_eq_cons_iff.mp hlengths
    obtain ⟨second, pieces, rfl, -, -⟩ := List.map_eq_cons_iff.mp hothers
    refine ⟨first, _, _, rfl, ?_, ⟨second :: pieces, hothers, rfl, rfl⟩, rfl⟩
    rw [List.intercalate_cons_cons, List.append_assoc, List.singleton_append]
  · rintro ⟨first, _, _, rfl, rfl, ⟨pieces, hlengths, rfl, rfl⟩, rfl⟩
    obtain ⟨second, pieces, rfl, -, -⟩ := List.map_eq_cons_iff.mp hlengths
    refine ⟨first :: second :: pieces, by rw [List.map_cons, hlengths], ?_, rfl⟩
    rw [List.intercalate_cons_cons, List.append_assoc, List.singleton_append]

/-- Groups have room for so many characters. -/
theorem Grouped.length_eq (h : Grouped lengths cs ds) : ds.length = lengths.sum := by
  obtain ⟨pieces, rfl, -, rfl⟩ := h
  exact List.length_flatten

/-- **Hyphens are taken out of characters in groups**, and of no others. -/
theorem unhyphenate?_eq_some_iff : unhyphenate? lengths cs = some ds ↔ Grouped lengths cs ds := by
  induction lengths generalizing cs ds with
  | nil =>
    rw [grouped_nil_iff, unhyphenate?, Option.ite_none_right_eq_some, Option.some.injEq,
      List.isEmpty_iff, eq_comm (a := [])]
  | cons n lengths ih =>
    cases lengths with
    | nil => rw [grouped_singleton_iff, unhyphenate?, Option.ite_none_right_eq_some,
        Option.some.injEq]
    | cons m lengths =>
      rw [grouped_cons_cons_iff, unhyphenate?]
      · constructor
        · intro h
          split at h
          · rename_i more hdrop
            obtain ⟨rest, hrest, rfl⟩ := Option.map_eq_some_iff.mp h
            have hlong : n < cs.length := by
              by_contra hshort
              rw [List.drop_of_length_le (not_lt.mp hshort)] at hdrop
              contradiction
            refine ⟨cs.take n, more, rest, List.length_take_of_le hlong.le, ?_, ih.mp hrest, rfl⟩
            rw [← hdrop, List.take_append_drop]
          · contradiction
        · rintro ⟨first, more, rest, rfl, rfl, hrest, rfl⟩
          rw [List.drop_left' rfl, List.take_left' rfl]
          exact Option.map_eq_some_iff.mpr ⟨rest, ih.mpr hrest, rfl⟩
      · exact List.cons_ne_nil m lengths

/-- **There is one way to put characters in groups**, the printed one. -/
theorem Grouped.eq_hyphenate (h : Grouped lengths cs ds) : cs = hyphenate lengths ds := by
  induction lengths generalizing cs ds with
  | nil =>
    obtain ⟨rfl, rfl⟩ := grouped_nil_iff.mp h
    rfl
  | cons n lengths ih =>
    cases lengths with
    | nil => exact (grouped_singleton_iff.mp h).2
    | cons m lengths =>
      obtain ⟨first, more, rest, rfl, rfl, hrest, rfl⟩ := grouped_cons_cons_iff.mp h
      rw [hyphenate, List.take_left' rfl, List.drop_left' rfl, ih hrest]
      exact List.cons_ne_nil m lengths

/-- What is printed in groups is in groups, if there are as many characters as
the groups have room for. -/
theorem grouped_hyphenate (h : cs.length = lengths.sum) :
    Grouped lengths (hyphenate lengths cs) cs := by
  induction lengths generalizing cs with
  | nil =>
    obtain rfl := List.eq_nil_of_length_eq_zero h
    exact grouped_nil_iff.mpr ⟨rfl, rfl⟩
  | cons n lengths ih =>
    cases lengths with
    | nil => exact grouped_singleton_iff.mpr ⟨h.trans List.sum_singleton, rfl⟩
    | cons m lengths =>
      rw [List.sum_cons] at h
      have hfirst : (cs.take n).length = n := List.length_take_of_le (h ▸ Nat.le_add_right _ _)
      have hrest : (cs.drop n).length = (m :: lengths).sum := by
        rw [List.length_drop, h, Nat.add_sub_cancel_left]
      rw [grouped_cons_cons_iff, hyphenate]
      · exact ⟨_, _, _, hfirst, rfl, ih hrest, (List.take_append_drop n cs).symm⟩
      · exact List.cons_ne_nil m lengths

/-- There is a hyphen between two groups. -/
theorem length_hyphenate (lengths : List ℕ) (cs : List Char) :
    (hyphenate lengths cs).length = cs.length + (lengths.length - 1) := by
  induction lengths generalizing cs with
  | nil => rfl
  | cons n lengths ih =>
    cases lengths with
    | nil => rfl
    | cons m lengths =>
      simp only [hyphenate, List.length_append, List.length_cons, List.length_take, ih,
        List.length_drop]
      omega

/-- What keeps hyphens may be done before they are put in. -/
theorem map_hyphenate {f : Char → Char} (hf : f '-' = '-') (lengths : List ℕ) (cs : List Char) :
    (hyphenate lengths cs).map f = hyphenate lengths (cs.map f) := by
  induction lengths generalizing cs with
  | nil => rfl
  | cons n lengths ih =>
    cases lengths with
    | nil => rfl
    | cons m lengths =>
      simp only [hyphenate, List.map_append, List.map_cons, List.map_take, List.map_drop, hf, ih]

/-- **Hyphens at the same places make no difference to a comparison.** -/
theorem hyphenate_lt_hyphenate_iff (h : cs.length = ds.length) :
    hyphenate lengths cs < hyphenate lengths ds ↔ cs < ds := by
  induction lengths generalizing cs ds with
  | nil => rfl
  | cons n lengths ih =>
    cases lengths with
    | nil => rfl
    | cons m lengths =>
      have hfirst : (cs.take n).length = (ds.take n).length := by
        rw [List.length_take, List.length_take, h]
      have hrest : (cs.drop n).length = (ds.drop n).length := by
        rw [List.length_drop, List.length_drop, h]
      calc hyphenate (n :: m :: lengths) cs < hyphenate (n :: m :: lengths) ds
          ↔ cs.take n < ds.take n ∨ cs.take n = ds.take n ∧ cs.drop n < ds.drop n := by
            simp only [hyphenate, append_lt_append_iff hfirst, List.cons_lt_cons_iff, ih hrest,
              lt_irrefl, false_or, true_and]
        _ ↔ cs < ds := by
            rw [← append_lt_append_iff hfirst, List.take_append_drop, List.take_append_drop]

/-! ## The hyphenated form -/

/-- **The hyphenated form of an identifier**: digits that write it, in groups of
eight, four, four, four and twelve. -/
def IsHyphenated (i : Identifier e) (cs : List Char) : Prop :=
  ∃ ds, Grouped [8, 4, 4, 4, 12] cs ds ∧ Text.WritesHex ds i.value

/-- An identifier is read from 32 digits that write it. -/
theorem ofDigits?_eq_some_iff :
    ofDigits? cs = some i ↔ cs.length = 32 ∧ Text.WritesHex cs i.value := by
  rw [ofDigits?, Option.ite_none_right_eq_some, and_congr_right_iff]
  refine fun _ => ⟨fun h => ?_, fun h => ?_⟩
  · obtain ⟨n, hread, hvalue⟩ := Option.bind_eq_some_iff.mp h
    split at hvalue
    · obtain rfl := Option.some.inj hvalue
      exact Text.ofHexDigits?_eq_some_iff.mp hread
    · contradiction
  · exact Option.bind_eq_some_iff.mpr
      ⟨i.value, Text.ofHexDigits?_eq_some_iff.mpr h, dif_pos i.isLt⟩

/-- An identifier is read from its hyphenated form. -/
theorem ofGroups?_eq_some_iff : ofGroups? cs = some i ↔ i.IsHyphenated cs := by
  rw [ofGroups?, Option.bind_eq_bind, Option.bind_eq_some_iff]
  refine exists_congr fun ds => ?_
  rw [unhyphenate?_eq_some_iff, ofDigits?_eq_some_iff]
  exact and_congr_right fun h => and_iff_right h.length_eq

/-- The printed form is hyphenated. -/
theorem isHyphenated_chars (i : Identifier e) : i.IsHyphenated i.chars :=
  ⟨_, grouped_hyphenate (Text.length_hexDigits 32 i.value), Text.writesHex_hexDigits i.isLt⟩

/-- **In lower case, the hyphenated form is the printed one**, whichever case
the letters had. -/
theorem IsHyphenated.map_toLower (h : i.IsHyphenated cs) : cs.map Char.toLower = i.chars := by
  obtain ⟨ds, hgroups, hds⟩ := h
  rw [hgroups.eq_hyphenate, map_hyphenate rfl, hds.map_toLower, hgroups.length_eq]
  rfl

/-- The characters of the printed form. -/
theorem toList_text (i : Identifier e) : i.text.toList = i.chars := String.toList_ofList

/-- **The printed form is the one that is hyphenated and in lower case.** -/
theorem eq_text_iff {s : String} : s = i.text ↔ i.IsHyphenated s.toList ∧ s.toLower = s := by
  have hlower (t : String) : t.toLower.toList = t.toList.map Char.toLower := String.toList_map
  constructor
  · rintro rfl
    refine ⟨i.toList_text ▸ i.isHyphenated_chars, String.toList_inj.mp ?_⟩
    rw [hlower, toList_text, i.isHyphenated_chars.map_toLower]
  · rintro ⟨h, hs⟩
    rw [← String.toList_inj, toList_text, ← h.map_toLower, ← hlower, hs]

/-- The hyphenated form begins with a digit. -/
theorem IsHyphenated.exists_eq_cons (h : i.IsHyphenated cs) :
    ∃ c rest d, cs = c :: rest ∧ Text.hexValue? c = some d := by
  obtain ⟨ds, hgroups, hds⟩ := h
  have hlength := hgroups.length_eq
  cases ds with
  | nil => exact nomatch hlength
  | cons c ds =>
    obtain ⟨d, hd⟩ := hds.exists_head
    exact ⟨c, _, d, hgroups.eq_hyphenate, hd⟩

/-- The hyphenated form is longer than digits in one piece. -/
theorem IsHyphenated.length_eq (h : i.IsHyphenated cs) : cs.length = 36 := by
  obtain ⟨ds, hgroups, -⟩ := h
  rw [hgroups.eq_hyphenate, length_hyphenate, hgroups.length_eq]
  rfl

/-! ## All forms -/

/-- **The forms in which an identifier is written.** -/
inductive IsWritten (i : Identifier e) : List Char → Prop where
  /-- 32 digits in one piece. -/
  | plain {cs : List Char} (hlength : cs.length = 32) (h : Text.WritesHex cs i.value) :
    IsWritten i cs
  /-- Digits in groups. -/
  | hyphenated {cs : List Char} (h : i.IsHyphenated cs) : IsWritten i cs
  /-- Digits in groups, in braces. -/
  | braced {cs : List Char} (h : i.IsHyphenated cs) :
    IsWritten i ('\x7b' :: (cs ++ ['\x7d']))
  /-- Digits in groups behind the scheme, whose letters may be of either case as well. -/
  | named {letters cs : List Char} (hletters : letters.map Char.toLower = "urn:uuid:".toList)
    (h : i.IsHyphenated cs) : IsWritten i (letters ++ cs)

/-- **What begins with a digit has no brace and no scheme.** -/
theorem ofChars?_of_digit {c : Char} {d : ℕ} (hc : Text.hexValue? c = some d) :
    ofChars? (e := e) (c :: cs)
      = if (c :: cs).length = 32 then ofDigits? (c :: cs) else ofGroups? (c :: cs) := by
  have hbrace : ∀ rest, c :: cs ≠ '\x7b' :: rest := by
    intro rest h
    obtain ⟨rfl, -⟩ := List.cons.inj h
    exact nomatch hc
  have hscheme : ((c :: cs).take scheme.length).map Char.toLower ≠ scheme := by
    intro h
    have hfirst : c.toLower = 'u' := (List.cons.inj h).1
    have hdigit : ∀ v < 16, Nat.digitChar v ≠ 'u' := by decide
    obtain ⟨hd, hlower⟩ := Text.hexValue?_eq_some_iff.mp hc
    exact hdigit d hd (hlower.symm.trans hfirst)
  rw [ofChars?, if_neg hscheme]
  exact hbrace

/-- **What begins with the scheme has no brace.** -/
theorem ofChars?_of_scheme {letters : List Char} (h : letters.map Char.toLower = scheme) :
    ofChars? (e := e) (letters ++ cs) = ofGroups? cs := by
  have hlength : letters.length = scheme.length := by rw [← h, List.length_map]
  have hscheme : ((letters ++ cs).take scheme.length).map Char.toLower = scheme := by
    rw [List.take_left' hlength, h]
  have hbrace : ∀ rest, letters ++ cs ≠ '\x7b' :: rest := by
    intro rest heq
    have hlower := congrArg (List.map Char.toLower) heq
    rw [List.map_append, h] at hlower
    exact absurd (List.cons.inj hlower).1 (by decide)
  rw [ofChars?, if_pos hscheme, List.drop_left' hlength]
  exact hbrace

/-- **Characters are read as an identifier if they have one of its forms.** -/
theorem ofChars?_eq_some_iff : ofChars? cs = some i ↔ i.IsWritten cs := by
  constructor
  · intro h
    unfold ofChars? at h
    split at h
    · rename_i rest
      obtain ⟨hlast, h⟩ := Option.ite_none_right_eq_some.mp h
      obtain ⟨inner, rfl⟩ := List.getLast?_eq_some_iff.mp hlast
      rw [List.dropLast_concat] at h
      exact .braced (ofGroups?_eq_some_iff.mp h)
    · split at h
      · rename_i hscheme
        rw [← List.take_append_drop scheme.length cs]
        exact .named hscheme (ofGroups?_eq_some_iff.mp h)
      · split at h
        · obtain ⟨hlength, h⟩ := ofDigits?_eq_some_iff.mp h
          exact .plain hlength h
        · exact .hyphenated (ofGroups?_eq_some_iff.mp h)
  · intro h
    cases h with
    | plain hlength h =>
      obtain ⟨c, rest, rfl⟩ := List.exists_cons_of_length_eq_add_one hlength
      obtain ⟨d, hd⟩ := h.exists_head
      rw [ofChars?_of_digit hd, if_pos hlength, ofDigits?_eq_some_iff]
      exact ⟨hlength, h⟩
    | hyphenated h =>
      obtain ⟨c, rest, d, rfl, hd⟩ := h.exists_eq_cons
      rw [ofChars?_of_digit hd, if_neg (by rw [h.length_eq]; decide), ofGroups?_eq_some_iff]
      exact h
    | @braced cs h =>
      rw [ofChars?, if_pos List.getLast?_concat, List.dropLast_concat, ofGroups?_eq_some_iff]
      exact h
    | @named letters cs hletters h =>
      rw [ofChars?_of_scheme hletters, ofGroups?_eq_some_iff]
      exact h

/-- **A text is read as an identifier if it has one of its forms.** -/
theorem parse?_eq_some_iff {s : String} : parse? s = some i ↔ i.IsWritten s.toList :=
  ofChars?_eq_some_iff

/-- **An identifier is read from its printed form.** -/
theorem parse?_text (i : Identifier e) : parse? i.text = some i := by
  rw [parse?_eq_some_iff, toList_text]
  exact .hyphenated i.isHyphenated_chars

/-! ## The order -/

/-- **The octets of an identifier**, the most significant one first. -/
def octets (i : Identifier e) : List ℕ := (Nat.digitsAppend 256 16 i.value).reverse

/-- There are sixteen of them. -/
theorem length_octets (i : Identifier e) : i.octets.length = 16 := by
  rw [octets, List.length_reverse]
  exact Nat.length_digitsAppend (by decide) 16 i.isLt

/-- An octet has eight bits. -/
theorem lt_of_mem_octets {d : ℕ} (h : d ∈ i.octets) : d < 256 :=
  Nat.lt_of_mem_digitsAppend (by decide) 16 d (List.mem_reverse.mp h)

/-- The octets of an identifier are worth its number. -/
theorem ofDigits_octets (i : Identifier e) : Nat.ofDigits 256 i.octets.reverse = i.value := by
  rw [octets, List.reverse_reverse]
  exact (Nat.setInvOn_digitsAppend_ofDigits (by decide) 16).2 i.isLt

/-- **Identifiers are ordered as their octets.** -/
theorem octets_lt_octets_iff : i.octets < j.octets ↔ i < j := by
  have hlength : i.octets.length = j.octets.length := by rw [length_octets, length_octets]
  rw [← ofDigits_reverse_lt_iff (by decide) hlength (fun _ => lt_of_mem_octets)
    (fun _ => lt_of_mem_octets), ofDigits_octets, ofDigits_octets]
  rfl

/-- **Identifiers are ordered as their printed forms.** -/
theorem text_lt_text_iff : i.text < j.text ↔ i < j := by
  have hlength : (Text.hexDigits 32 i.value).length = (Text.hexDigits 32 j.value).length := by
    rw [Text.length_hexDigits, Text.length_hexDigits]
  rw [String.lt_iff_toList_lt, toList_text, toList_text, chars, chars,
    hyphenate_lt_hyphenate_iff hlength, Text.hexDigits_lt_hexDigits_iff i.isLt j.isLt]
  rfl

/-- **The printed form stands for the identifier.** It is read back, and so is
every other form, with letters of whichever case; no text is read otherwise, so
whatever is read is printed as one text. That text is told from the other forms
by its hyphens and its lower case. Identifiers are in the order of their octets,
which is the order of their printed forms. -/
theorem text_canonical (i j : Identifier e) (s : String) :
    parse? i.text = some i
      ∧ (parse? s = some i ↔ i.IsWritten s.toList)
      ∧ (s = i.text ↔ i.IsHyphenated s.toList ∧ s.toLower = s)
      ∧ (i ≤ j ↔ i.octets ≤ j.octets)
      ∧ (i ≤ j ↔ i.text ≤ j.text)
      ∧ (i < j ↔ i.text < j.text) := by
  have hle : i ≤ j ↔ ¬ j < i := Nat.not_lt.symm
  refine ⟨i.parse?_text, parse?_eq_some_iff, eq_text_iff, ?_, ?_, text_lt_text_iff.symm⟩
  · rw [hle, ← octets_lt_octets_iff, not_lt]
  · rw [hle, ← text_lt_text_iff, not_lt]

example : ((parse? "urn:UUID:3C9604d6-b5eE-11e8-96f8-529269FB1459").map
      (text : Identifier .device → String))
    = some "3c9604d6-b5ee-11e8-96f8-529269fb1459" := rfl

end Identifier

end FleetCompliance
