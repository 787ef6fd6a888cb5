import FleetCompliance.Vehicle.Codec
import FleetCompliance.Proofs.Pairs
import FleetCompliance.Proofs.WrittenIdentifiers
import FleetCompliance.Proofs.WrittenTimes

/-!
# Values written and read back

The same value is written in one way and read in several: a record may list
its fields in any order or without names, a field may be missing or null, a
name may be a string or a key. That what is written is read back as it was
(`Restores`) is therefore a statement about the one way that is taken in
writing, field by field.

A record that is written has distinct keys, all of them known, so the reader
keeps it as it is (`Record.ofMembers?_eq_some`). What is left of each field is
to look it up. A field that is left out when absent and one that is null when
absent are read alike, as long as no value is written as null; so that is part
of what restoring means.

In the other direction a value that is read has been read part by part from
the document (`of_required`, `of_optional`, `listOf_eq_some_iff`), so that
whatever holds of the parts that a reader gives out holds of the parts of the
value.
-/

namespace FleetCompliance

namespace Json

variable {α β : Type}

/-- **A reading restores a value from what is written of it**, and what is
written is not taken for absence. -/
structure Restores (read : Json → Option α) (write : α → Json) (x : α) : Prop where
  read_write : read (write x) = some x
  ne_null : write x ≠ .null

/-! ## Scalars and lists -/

/-- Texts are restored. -/
theorem restores_text (s : String) : Restores text? .str s := ⟨rfl, fun h => nomatch h⟩

/-- Words are restored. -/
theorem restores_word (w : UInt64) : Restores word? ofWord w := by
  refine ⟨?_, fun h => nomatch h⟩
  have hrange : (0 : Int) ≤ w.toNat ∧ (w.toNat : Int) < UInt64.size :=
    ⟨Int.natCast_nonneg _, Int.ofNat_lt.mpr w.toNat_lt_size⟩
  rw [word?, ofWord, int?, Option.bind_eq_bind, Option.bind_some]
  rw [if_pos hrange, Int.toNat_natCast, UInt64.ofNat_toNat]

/-- **Finite doubles are restored**, for they are written as they are. -/
theorem restores_float {x : Float} (h : x.isFinite = true) : Restores float? ofFloat x := by
  have hwritten : ofFloat x = .num (.real x) := if_pos h
  refine ⟨?_, by simp [hwritten]⟩
  rw [hwritten]
  exact if_pos h

/-- A name is restored if it is found among the names. -/
theorem restores_named {table : List (String × α)} {name : α → String} {x : α}
    (h : table.lookup (name x) = some x) (orEmpty : Bool) :
    Restores (named? table orEmpty) (fun x => .str (name x)) x :=
  ⟨h, fun h => nomatch h⟩

/-- Readings that succeed one by one succeed together. -/
theorem mapM_eq_some_iff {read : α → Option β} {items : List α} {xs : List β} :
    items.mapM read = some xs ↔ List.Forall₂ (fun j x => read j = some x) items xs := by
  induction items generalizing xs with
  | nil => simp [eq_comm]
  | cons j items ih =>
    simp only [List.mapM_cons, Option.bind_eq_bind, Option.bind_eq_some_iff, ih,
      List.forall₂_cons_left_iff, Option.pure_def, Option.some.injEq]
    constructor
    · rintro ⟨x, hx, rest, hrest, rfl⟩
      exact ⟨x, rest, hx, hrest, rfl⟩
    · rintro ⟨x, rest, hx, hrest, rfl⟩
      exact ⟨x, hx, rest, hrest, rfl⟩

/-- A list is read from an array of its items. -/
theorem listOf_eq_some_iff {read : Json → Option α} {j : Json} {xs : List α} :
    listOf read j = some xs
      ↔ ∃ items, j = .arr items ∧ List.Forall₂ (fun j x => read j = some x) items xs := by
  rw [← exists_congr fun items => and_congr_right fun _ => mapM_eq_some_iff]
  cases j <;> simp [listOf, items?]

/-- **A list is read back** exactly if each of its items is. -/
theorem listOf_map_eq_some_iff {read : Json → Option α} {write : α → Json} {xs : List α} :
    listOf read (.arr (xs.map write)) = some xs ↔ ∀ x ∈ xs, read (write x) = some x := by
  show (xs.map write).mapM read = some xs ↔ _
  rw [mapM_eq_some_iff, List.forall₂_map_left_iff, List.forall₂_same]

/-- Lists are restored item by item. -/
theorem restores_list {read : Json → Option α} {write : α → Json} {xs : List α}
    (h : ∀ x ∈ xs, Restores read write x) :
    Restores (listOf read) (fun xs => .arr (xs.map write)) xs :=
  ⟨listOf_map_eq_some_iff.mpr fun x hx => (h x hx).read_write, fun h => nomatch h⟩

/-- What holds of every item that is read holds of a list of them. -/
theorem forall_of_listOf {read : Json → Option α} {p : α → Prop}
    (hread : ∀ j x, read j = some x → p x) {j : Json} {xs : List α}
    (h : listOf read j = some xs) : ∀ x ∈ xs, p x := by
  obtain ⟨items, -, hitems⟩ := listOf_eq_some_iff.mp h
  intro x hx
  obtain ⟨j, -, hj⟩ := exists_of_mem_forall₂ hitems hx
  exact hread j x hj

/-- Doubles that are read are finite. -/
theorem isFinite_of_float? {j : Json} {x : Float} (h : j.float? = some x) :
    x.isFinite = true := by
  cases j with
  | num n =>
    by_cases hfinite : n.toFloat.isFinite = true
    · rw [float?, if_pos hfinite] at h
      rwa [← Option.some.inj h]
    · rw [float?, if_neg hfinite] at h
      exact nomatch h
  | _ => exact nomatch h

/-! ## Records that are written -/

/-- The member of a field that may be absent, looked up. -/
@[simp] theorem lookup_member? (key k : String) (write : α → Json) (o : Option α) :
    (member? key write o).lookup k = if k == key then o.map write else none := by
  cases o with
  | none => simp [member?]
  | some x => by_cases h : k == key <;> simp [member?, List.lookup_cons, h]

/-- A field that may be absent has at most one key. -/
theorem keys_member?_sublist (key : String) (write : α → Json) (o : Option α) :
    ((member? key write o).map (·.1)).Sublist [key] := by
  cases o with
  | none => exact List.nil_sublist _
  | some x => exact .refl _

/-- Where no key is repeated the last member with a key is the first one. -/
theorem get?_obj {members : List (String × Json)} (h : (members.map (·.1)).Nodup) (key : String) :
    (obj members).get? key = members.lookup key := by
  rw [get?]
  induction members with
  | nil => rfl
  | cons m members ih =>
    obtain ⟨k, j⟩ := m
    rw [List.map_cons, List.nodup_cons] at h
    rw [List.reverse_cons, List.find?_append, List.lookup_cons]
    by_cases heq : key = k
    · subst heq
      have hlater : members.reverse.find? (·.1 == key) = none := by
        refine List.find?_eq_none.mpr fun m hm hkey => h.1 ?_
        exact List.mem_map.mpr ⟨m, List.mem_reverse.mp hm, beq_iff_eq.mp hkey⟩
      simp [hlater]
    · have hkey : (key == k) = false := beq_false_of_ne heq
      have hlast : (k == key) = false := beq_false_of_ne (Ne.symm heq)
      rw [hkey, ← ih h.2]
      simp [hlast]

/-- An object as a record of all its members. -/
def asRecord : Json → Record
  | obj members => ⟨members, false⟩
  | _ => ⟨[], false⟩

namespace Record

/-- **A record with distinct and known keys is kept as it is.** -/
theorem ofMembers?_eq_some {names keys : List String} {members : List (String × Json)}
    (h : (members.map (·.1)).Sublist keys) (hdistinct : keys.Nodup)
    (hknown : ∀ key ∈ keys, key ∈ names) : ofMembers? names members = some ⟨members, false⟩ := by
  have hall : members.filter (fun m => names.contains m.1) = members := by
    refine List.filter_eq_self.mpr fun m hm => ?_
    rw [List.contains_iff_mem]
    exact hknown _ (h.subset (List.mem_map_of_mem hm))
  rw [ofMembers?, hall]
  exact if_pos (hdistinct.sublist h)

/-- A record that is written with some of its fields, in their order, is kept
as it is. -/
theorem ofJson?_eq_asRecord {names : List String} {members : List (String × Json)}
    (h : (members.map (·.1)).Sublist names) (hdistinct : names.Nodup) :
    ofJson? names (obj members) = some (obj members).asRecord :=
  ofMembers?_eq_some h hdistinct fun _ h => h

variable {read : Json → Option α} {write : α → Json} {r : Record} {name : String}

/-- A field that is there is restored. -/
theorem required_of_restores {x : α} (h : Restores read write x)
    (hget : r.get? name = some (write x)) : r.required name read = some x := by
  rw [required, hget]
  exact h.read_write

/-- A value that may be null is present if it is not null and can be read. -/
theorem unlessNull_eq_some_iff {j : Json} {x : α} :
    unlessNull read j = some (some x) ↔ j ≠ .null ∧ read j = some x := by
  cases j with
  | null => exact Iff.intro (fun h => nomatch h) (fun h => absurd rfl h.1)
  | _ => simp [unlessNull]

/-- What is written of a value is not read as absence. -/
theorem unlessNull_of_restores {x : α} (h : Restores read write x) :
    unlessNull read (write x) = some (some x) :=
  unlessNull_eq_some_iff.mpr ⟨h.ne_null, h.read_write⟩

/-- A field that is left out when absent is restored, present or absent. -/
theorem optional_of_restores {o : Option α} (h : ∀ x ∈ o, Restores read write x)
    (hget : r.get? name = o.map write) : r.optional name read = some o := by
  rw [optional, hget]
  cases o with
  | none => rfl
  | some x => exact unlessNull_of_restores (h x rfl)

/-- A field that is null when absent is restored, present or absent. -/
theorem optional_orNull_of_restores {o : Option α} (h : ∀ x ∈ o, Restores read write x)
    (hget : r.get? name = some (orNull write o)) : r.optional name read = some o := by
  rw [optional, hget]
  cases o with
  | none => rfl
  | some x => exact unlessNull_of_restores (h x rfl)

/-- The same where only an object may leave the field out. -/
theorem nullable_orNull_of_restores {o : Option α} (h : ∀ x ∈ o, Restores read write x)
    (hget : r.get? name = some (orNull write o)) : r.nullable name read = some o := by
  rw [nullable, hget]
  cases o with
  | none => rfl
  | some x => exact unlessNull_of_restores (h x rfl)

/-! ## Records that are read -/

/-- A field that has to be there has been read. -/
theorem of_required {x : α} (h : r.required name read = some x) :
    ∃ j, r.get? name = some j ∧ read j = some x := Option.bind_eq_some_iff.mp h

/-- A field that may be missing or null has been read, if it is not absent. -/
theorem of_optional {x : α} (h : r.optional name read = some (some x)) :
    ∃ j, r.get? name = some j ∧ j ≠ .null ∧ read j = some x := by
  rw [optional] at h
  cases hget : r.get? name with
  | none => simp [hget] at h
  | some j => exact ⟨j, rfl, unlessNull_eq_some_iff.mp (by simpa only [hget] using h)⟩

/-- The same where only an object may leave the field out. -/
theorem of_nullable {x : α} (h : r.nullable name read = some (some x)) :
    ∃ j, r.get? name = some j ∧ j ≠ .null ∧ read j = some x := by
  rw [nullable] at h
  cases hget : r.get? name with
  | none => by_cases hlisted : r.listed = true <;> simp [hget, hlisted] at h
  | some j => exact ⟨j, rfl, unlessNull_eq_some_iff.mp (by simpa only [hget] using h)⟩

/-- A number that has to be there is finite. -/
theorem isFinite_of_required {x : Float} (h : r.required name float? = some x) :
    x.isFinite = true := by
  obtain ⟨j, -, hx⟩ := of_required h
  exact isFinite_of_float? hx

/-- A number that may be absent is finite. -/
theorem isFinite_of_optional {o : Option Float} (h : r.optional name float? = some o) :
    ∀ x ∈ o, x.isFinite = true := by
  rintro x rfl
  obtain ⟨j, -, -, hx⟩ := of_optional h
  exact isFinite_of_float? hx

end Record

end Json

/-! ## Names, identifiers and times -/

/-- Kinds of vehicles are restored. -/
theorem VehicleType.restores (orEmpty : Bool) (t : VehicleType) :
    Json.Restores (Json.named? names orEmpty) (fun t => .str t.name) t :=
  Json.restores_named (by cases t <;> rfl) orEmpty

/-- States are restored. -/
theorem VehicleState.restores (orEmpty : Bool) (s : VehicleState) :
    Json.Restores (Json.named? names orEmpty) (fun s => .str s.name) s :=
  Json.restores_named (by cases s <;> rfl) orEmpty

/-- Reasons are restored. -/
theorem EventType.restores (orEmpty : Bool) (t : EventType) :
    Json.Restores (Json.named? names orEmpty) (fun t => .str t.name) t :=
  Json.restores_named (by cases t <;> rfl) orEmpty

/-- Identifiers are restored. -/
theorem Identifier.restores {e : Entity} (i : Identifier e) :
    Json.Restores ofJson? toJson i := by
  refine ⟨?_, fun h => nomatch h⟩
  rw [ofJson?, toJson, Json.text?, Option.bind_eq_bind, Option.bind_some, parse?_text]

/-- Times of day are restored. -/
theorem TimeOfDay.restores (t : TimeOfDay) : Json.Restores ofJson? toJson t := by
  refine ⟨?_, fun h => nomatch h⟩
  rw [ofJson?, toJson, Json.text?, Option.bind_eq_bind, Option.bind_some, parse?_text]

/-- Instants are restored. -/
theorem Instant.restores (t : Instant) : Json.Restores ofJson? toJson t := by
  refine ⟨?_, fun h => nomatch h⟩
  rw [ofJson?, toJson, Json.int?, Option.bind_eq_bind, Option.bind_some, ofMillis?,
    dif_pos ⟨t.earliest_le, t.le_latest⟩]

end FleetCompliance
