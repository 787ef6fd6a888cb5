import FleetCompliance.Proofs.Records

/-!
# Values that are kept as a whole

A value whose sort is found by trying is kept in memory before it is looked
at. Then it has to be readable down to its last literal, also where nobody
looks, and must not nest too deep for its place in the document. For such a
value it is not enough that what is written of it can be read: it must also
pass this test wherever the value passed it that was read.

So values are compared by the room they take (`Fits`), and what is written is
shown to fit in what was read, part by part. Every part of a record that is
written stands for a part of the record that was read, or is a scalar, so one
level of nesting is written for each that was there (`fits_obj`). Free-form
values are written as they were read, but without the members that did not
count; here the size goes down and a second reading leaves nothing out
(`lastWins_lastWins`).
-/

namespace FleetCompliance.Json

variable {α : Type}

/-- **Induction on values**: an array is made of its items and an object of the
values of its members. -/
theorem induction {motive : Json → Prop} (null : motive null) (bool : ∀ b, motive (bool b))
    (num : ∀ n, motive (num n)) (str : ∀ s, motive (str s))
    (arr : ∀ items, (∀ j ∈ items, motive j) → motive (arr items))
    (obj : ∀ members, (∀ m ∈ members, motive m.2) → motive (obj members))
    (unreadable : motive unreadable) (j : Json) : motive j := by
  refine Json.rec (motive_1 := motive) (motive_2 := fun items => ∀ j ∈ items, motive j)
    (motive_3 := fun members => ∀ m ∈ members, motive m.2) (motive_4 := fun m => motive m.2)
    null bool num str arr obj unreadable ?_ ?_ ?_ ?_ ?_ j
  · exact fun _ h => nomatch h
  · exact fun _ _ hhead htail => List.forall_mem_cons.mpr ⟨hhead, htail⟩
  · exact fun _ h => nomatch h
  · exact fun _ _ hhead htail => List.forall_mem_cons.mpr ⟨hhead, htail⟩
  · exact fun _ _ h => h

/-! ## Room -/

/-- **A value takes no more room than another**: it nests no deeper, and it is
readable if the other one is. -/
structure Fits (a b : Json) : Prop where
  depth_le : a.depth ≤ b.depth
  readable : b.readable = true → a.readable = true

/-- A value takes no more room than the inside of another. -/
structure Inside (a b : Json) : Prop where
  depth_lt : a.depth < b.depth
  readable : b.readable = true → a.readable = true

/-- Every value fits in itself. -/
theorem Fits.refl (j : Json) : Fits j j := ⟨Nat.le_refl _, id⟩

/-- What fits in something inside is inside. -/
theorem Fits.inside {a b c : Json} (h : Fits a b) (hb : Inside b c) : Inside a c :=
  ⟨Nat.lt_of_le_of_lt h.depth_le hb.depth_lt, fun hc => h.readable (hb.readable hc)⟩

/-- **What fits is kept wherever the other value is.** -/
theorem Fits.kept {a b kept : Json} {outer : Option Nat} (h : Fits a b)
    (hb : b.kept outer = some kept) : a.kept outer = some a := by
  cases outer with
  | none => rfl
  | some n =>
    have htest : (b.readable && n + b.depth ≤ maxDepth) = true := by
      by_contra hfails
      rw [Json.kept, if_neg hfails] at hb
      exact nomatch hb
    rw [Bool.and_eq_true, decide_eq_true_iff] at htest
    refine if_pos ?_
    rw [Bool.and_eq_true, decide_eq_true_iff]
    exact ⟨h.readable htest.1, Nat.le_trans (Nat.add_le_add_left h.depth_le n) htest.2⟩

/-- A value that is kept is kept as it is. -/
theorem eq_of_kept {j kept : Json} {outer : Option Nat} (h : j.kept outer = some kept) :
    kept = j := by
  cases outer with
  | none => exact (Option.some.inj h).symm
  | some n =>
    rw [Json.kept] at h
    split at h
    · exact (Option.some.inj h).symm
    · exact nomatch h

/-! ### Arrays and objects -/

/-- The depth of a list is the greatest of its items'. -/
theorem depthItems_le_iff {items : List Json} {n : Nat} :
    depthItems items ≤ n ↔ ∀ j ∈ items, j.depth ≤ n := by
  induction items with
  | nil => exact iff_of_true n.zero_le fun _ h => nomatch h
  | cons j items ih =>
    show max j.depth (depthItems items) ≤ n ↔ _
    rw [Nat.max_le, ih, List.forall_mem_cons]

/-- The depth among members is the greatest of their values'. -/
theorem depthMembers_le_iff {members : List (String × Json)} {n : Nat} :
    depthMembers members ≤ n ↔ ∀ m ∈ members, m.2.depth ≤ n := by
  induction members with
  | nil => exact iff_of_true n.zero_le fun _ h => nomatch h
  | cons m members ih =>
    show max m.2.depth (depthMembers members) ≤ n ↔ _
    rw [Nat.max_le, ih, List.forall_mem_cons]

/-- A list is readable if its items are. -/
theorem readableItems_iff {items : List Json} :
    readableItems items = true ↔ ∀ j ∈ items, j.readable = true := by
  induction items with
  | nil => exact iff_of_true rfl fun _ h => nomatch h
  | cons j items ih =>
    show (j.readable && readableItems items) = true ↔ _
    rw [Bool.and_eq_true, ih, List.forall_mem_cons]

/-- Members are readable if their values are. -/
theorem readableMembers_iff {members : List (String × Json)} :
    readableMembers members = true ↔ ∀ m ∈ members, m.2.readable = true := by
  induction members with
  | nil => exact iff_of_true rfl fun _ h => nomatch h
  | cons m members ih =>
    show (m.2.readable && readableMembers members) = true ↔ _
    rw [Bool.and_eq_true, ih, List.forall_mem_cons]

/-- Items are inside of their array. -/
theorem inside_arr {items : List Json} {j : Json} (h : j ∈ items) : Inside j (arr items) where
  depth_lt := Nat.lt_one_add_iff.mpr (depthItems_le_iff.mp (Nat.le_refl _) j h)
  readable hreadable := readableItems_iff.mp hreadable j h

/-- Values of members are inside of their object. -/
theorem inside_obj {members : List (String × Json)} {m : String × Json} (h : m ∈ members) :
    Inside m.2 (obj members) where
  depth_lt := Nat.lt_one_add_iff.mpr (depthMembers_le_iff.mp (Nat.le_refl _) m h)
  readable hreadable := readableMembers_iff.mp hreadable m h

variable {j : Json}

/-- **An array fits in whatever its items are inside of.** -/
theorem fits_arr {items : List Json} (hdepth : 0 < j.depth) (h : ∀ i ∈ items, Inside i j) :
    Fits (arr items) j where
  depth_le := by
    have hle : depthItems items ≤ j.depth - 1 :=
      depthItems_le_iff.mpr fun i hi => Nat.le_sub_one_of_lt (h i hi).depth_lt
    show 1 + depthItems items ≤ j.depth
    omega
  readable hj := readableItems_iff.mpr fun i hi => (h i hi).readable hj

/-- **An object fits in whatever the values of its members are inside of.** -/
theorem fits_obj {members : List (String × Json)} (hdepth : 0 < j.depth)
    (h : ∀ m ∈ members, Inside m.2 j) : Fits (obj members) j where
  depth_le := by
    have hle : depthMembers members ≤ j.depth - 1 :=
      depthMembers_le_iff.mpr fun m hm => Nat.le_sub_one_of_lt (h m hm).depth_lt
    show 1 + depthMembers members ≤ j.depth
    omega
  readable hj := readableMembers_iff.mpr fun m hm => (h m hm).readable hj

/-- Arrays have an inside. -/
theorem depth_arr_pos (items : List Json) : 0 < (arr items).depth :=
  Nat.lt_one_add_iff.mpr (Nat.zero_le _)

/-- Objects have an inside. -/
theorem depth_obj_pos (members : List (String × Json)) : 0 < (obj members).depth :=
  Nat.lt_one_add_iff.mpr (Nat.zero_le _)

/-! ## The last member wins -/

section KeepLast

variable {β : Type} (l : List (String × α))

/-- The members that are kept stand in their order. -/
theorem keepLast_sublist : (keepLast l).Sublist l := by
  induction l with
  | nil => exact .refl _
  | cons m l ih =>
    rw [keepLast]
    split
    · exact ih.cons m
    · exact ih.cons_cons m

/-- Every key is kept. -/
theorem any_keepLast (key : String) : (keepLast l).any (·.1 == key) = l.any (·.1 == key) := by
  induction l with
  | nil => rfl
  | cons m l ih =>
    rw [keepLast, List.any_cons]
    split
    · rename_i hlater
      rw [ih]
      by_cases hkey : m.1 = key
      · rw [← hkey, hlater, Bool.or_true]
      · rw [beq_false_of_ne hkey, Bool.false_or]
    · rw [List.any_cons, ih]

/-- **Where no key is repeated there is nothing to leave out.** -/
theorem keepLast_keepLast : keepLast (keepLast l) = keepLast l := by
  induction l with
  | nil => rfl
  | cons m l ih =>
    rw [keepLast]
    split
    · exact ih
    · rename_i hlast
      rw [keepLast, any_keepLast, if_neg hlast, ih]

/-- Which members are kept depends on the keys alone. -/
theorem keepLast_map (f : α → β) :
    keepLast (l.map fun m => (m.1, f m.2)) = (keepLast l).map fun m => (m.1, f m.2) := by
  induction l with
  | nil => rfl
  | cons m l ih =>
    have hany : (l.map fun m => (m.1, f m.2)).any (·.1 == m.1) = l.any (·.1 == m.1) := by
      rw [List.any_map]
      rfl
    rw [List.map_cons, keepLast, hany, keepLast, ih]
    split <;> rfl

end KeepLast

/-- Items are freed of repeated keys one by one. -/
theorem lastWinsItems_eq_map (items : List Json) : lastWinsItems items = items.map lastWins := by
  induction items with
  | nil => rfl
  | cons j items ih => rw [lastWinsItems, ih, List.map_cons]

/-- So are the values of members. -/
theorem lastWinsMembers_eq_map (members : List (String × Json)) :
    lastWinsMembers members = members.map fun m => (m.1, m.2.lastWins) := by
  induction members with
  | nil => rfl
  | cons m members ih => rw [lastWinsMembers, ih, List.map_cons]

/-- **A value without repeated keys stays as it is**, and `lastWins` gives
such values. -/
theorem lastWins_lastWins (j : Json) : j.lastWins.lastWins = j.lastWins := by
  induction j using Json.induction with
  | arr items ih =>
    rw [lastWins, lastWins, lastWinsItems_eq_map, lastWinsItems_eq_map, List.map_map]
    exact congrArg arr (List.map_congr_left ih)
  | obj members ih =>
    rw [lastWins, lastWins, lastWinsMembers_eq_map, lastWinsMembers_eq_map, ← keepLast_map,
      keepLast_keepLast, List.map_map]
    refine congrArg (fun members => obj (keepLast members)) (List.map_congr_left fun m hm => ?_)
    exact congrArg (Prod.mk m.1) (ih m hm)
  | _ => rfl

/-- **What is left of a value takes no more room.** -/
theorem fits_lastWins (j : Json) : Fits j.lastWins j := by
  induction j using Json.induction with
  | arr items ih =>
    rw [lastWins, lastWinsItems_eq_map]
    refine fits_arr (depth_arr_pos _) ?_
    rw [List.forall_mem_map]
    exact fun i hi => (ih i hi).inside (inside_arr hi)
  | obj members ih =>
    rw [lastWins, lastWinsMembers_eq_map, keepLast_map]
    refine fits_obj (depth_obj_pos _) ?_
    rw [List.forall_mem_map]
    intro m hm
    have hm := (keepLast_sublist members).subset hm
    exact (ih m hm).inside (inside_obj hm)
  | _ => exact .refl _

/-! ## What is read is written again -/

/-- **A reading and a writing reproduce values**: what is read is read again
from what is written of it, is not taken for absence unless it was read from
null, and takes no more room than before. -/
structure Reproduces (read : Json → Option α) (write : α → Json) : Prop where
  read_write : ∀ {j x}, read j = some x → read (write x) = some x
  ne_null : ∀ {j x}, j ≠ .null → read j = some x → write x ≠ .null
  fits : ∀ {j x}, read j = some x → Fits (write x) j

/-- What is read is restored. -/
theorem Reproduces.restores {read : Json → Option α} {write : α → Json}
    (h : Reproduces read write) {x : α} (hj : j ≠ .null) (hread : read j = some x) :
    Restores read write x := ⟨h.read_write hread, h.ne_null hj hread⟩

/-- A readable scalar fits in every value. -/
theorem Fits.of_null {a : Json} (h : Fits a .null) (j : Json) : Fits a j :=
  ⟨Nat.le_trans h.depth_le (Nat.zero_le _), fun _ => h.readable rfl⟩

/-- It is inside of everything that has an inside. -/
theorem Fits.inside_of_null {a : Json} (h : Fits a .null) (hdepth : 0 < j.depth) : Inside a j :=
  ⟨Nat.lt_of_le_of_lt h.depth_le hdepth, fun _ => h.readable rfl⟩

/-- Numbers are readable scalars. -/
theorem fits_num (n : Number) : Fits (num n) .null := ⟨Nat.le_refl _, id⟩

/-- Texts are readable scalars. -/
theorem fits_str (s : String) : Fits (str s) .null := ⟨Nat.le_refl _, id⟩

/-- Doubles are reproduced. -/
theorem reproduces_float : Reproduces float? ofFloat where
  read_write hread := (restores_float (isFinite_of_float? hread)).read_write
  ne_null _ hread := (restores_float (isFinite_of_float? hread)).ne_null
  fits {j x} hread := by
    have hwritten : ofFloat x = num (.real x) := if_pos (isFinite_of_float? hread)
    rw [hwritten]
    exact (fits_num _).of_null j

/-- **Lists are reproduced** item by item. -/
theorem reproduces_list {read : Json → Option α} {write : α → Json} (h : Reproduces read write) :
    Reproduces (listOf read) (fun xs => arr (xs.map write)) where
  read_write hread := listOf_map_eq_some_iff.mpr (forall_of_listOf (fun _ _ => h.read_write) hread)
  ne_null _ _ := fun hnull => nomatch hnull
  fits hread := by
    obtain ⟨items, rfl, hitems⟩ := listOf_eq_some_iff.mp hread
    refine fits_arr (depth_arr_pos _) ?_
    rw [List.forall_mem_map]
    intro x hx
    obtain ⟨i, hi, hx⟩ := exists_of_mem_forall₂ hitems hx
    exact (h.fits hx).inside (inside_arr hi)

/-- **Free-form values are reproduced**, once they are freed of repeated
keys. -/
theorem reproduces_lastWins : Reproduces (fun j => some j.lastWins) id where
  read_write {j _} hread := by
    obtain rfl := Option.some.inj hread
    exact congrArg some j.lastWins_lastWins
  ne_null {j _} hj hread := by
    obtain rfl := Option.some.inj hread
    cases j with
    | null => exact absurd rfl hj
    | _ => exact fun hnull => nomatch hnull
  fits {j _} hread := by
    obtain rfl := Option.some.inj hread
    exact j.fits_lastWins

/-! ### Records -/

namespace Record

/-- **A record is within a value** if its fields are inside of it. -/
structure Within (r : Record) (j : Json) : Prop where
  depth_pos : 0 < j.depth
  inside : ∀ {name v}, r.get? name = some v → Inside v j

variable {r : Record} {name : String} {read : Json → Option α} {write : α → Json}

/-- A record is within what holds its fields. -/
theorem within_of_forall (hdepth : 0 < j.depth) (h : ∀ m ∈ r.fields, Inside m.2 j) :
    r.Within j where
  depth_pos := hdepth
  inside {name v} hget := by
    obtain ⟨before, after, hfields, -⟩ := List.lookup_eq_some_iff.mp hget
    exact h (name, v) (hfields ▸ List.mem_append_right _ List.mem_cons_self)

/-- A record is within the object of the members that it is taken from. -/
theorem within_of_ofMembers? {names : List String} {members : List (String × Json)}
    (h : ofMembers? names members = some r) : r.Within (obj members) := by
  rw [ofMembers?] at h
  split at h
  · obtain rfl := Option.some.inj h
    exact within_of_forall (depth_obj_pos _) fun m hm => inside_obj (List.mem_of_mem_filter hm)
  · cases h

/-- A record is within the object that it is read from. -/
theorem within_of_ofObject? {names : List String} (h : ofObject? names j = some r) :
    r.Within j := by
  cases j with
  | obj members => exact within_of_ofMembers? h
  | _ => exact nomatch h

/-- **A record is within the value that it is read from**, in either form. -/
theorem within_of_ofJson? {names : List String} (h : ofJson? names j = some r) :
    r.Within j := by
  cases j with
  | obj members => exact within_of_ofMembers? h
  | arr items =>
    rw [ofJson?] at h
    split at h
    · obtain rfl := Option.some.inj h
      refine within_of_forall (depth_arr_pos _) fun m hm => ?_
      exact inside_arr (List.of_mem_zip hm).2
    · exact nomatch h
  | _ => exact nomatch h

/-- A field that is there is written inside of what it was read from. -/
theorem Within.required (h : r.Within j) (hr : Reproduces read write) {x : α}
    (hread : r.required name read = some x) : Inside (write x) j := by
  obtain ⟨v, hget, hread⟩ := of_required hread
  exact (hr.fits hread).inside (h.inside hget)

/-- A field that is null when absent is written inside of what it was read
from. -/
theorem Within.nullable (h : r.Within j) (hr : Reproduces read write) {o : Option α}
    (hread : r.nullable name read = some o) : Inside (orNull write o) j := by
  cases o with
  | none => exact (Fits.refl .null).inside_of_null h.depth_pos
  | some x =>
    obtain ⟨v, hget, -, hread⟩ := of_nullable hread
    exact (hr.fits hread).inside (h.inside hget)

/-- A field that is left out when absent is written inside of what it was read
from. -/
theorem Within.optional (h : r.Within j) (hr : Reproduces read write) {o : Option α}
    (hread : r.optional name read = some o) (key : String) :
    ∀ m ∈ member? key write o, Inside m.2 j := by
  cases o with
  | none => exact fun _ hm => nomatch hm
  | some x =>
    obtain ⟨v, hget, -, hread⟩ := of_optional hread
    exact List.forall_mem_singleton.mpr ((hr.fits hread).inside (h.inside hget))

end Record

end FleetCompliance.Json
