import FleetCompliance.Json.Basic

/-!
# Records in JSON

A record is an object with known fields, or an array that lists the fields' values in order. Members
that are not fields are passed over; a field that stands in an object twice is a fault.

Reading is in two steps: a `Record` collects the fields that are there, and `required`, `optional`
and `nullable` ask for them one by one.
-/

namespace FleetCompliance.Json

/-- The fields found in a record, and whether it was written as an array. -/
structure Record where
  fields : List (String × Json)
  listed : Bool

namespace Record

/-- The members of an object that are among `names`, if none of them stands there twice. -/
def ofMembers? (names : List String) (members : List (String × Json)) : Option Record :=
  let known := members.filter fun m => names.contains m.1
  if (known.map (·.1)).Nodup then some ⟨known, false⟩ else none

/-- A record that has to be an object. -/
def ofObject? (names : List String) : Json → Option Record
  | obj members => ofMembers? names members
  | _ => none

/-- A record in either form. An array may stop short of the last names but not go beyond them. -/
def ofJson? (names : List String) : Json → Option Record
  | obj members => ofMembers? names members
  | arr items => if items.length ≤ names.length then some ⟨names.zip items, true⟩ else none
  | _ => none

/-- The value of a field that is there. -/
def get? (r : Record) (name : String) : Option Json := r.fields.lookup name

/-- A field that has to be there. -/
def required {α : Type} (r : Record) (name : String) (read : Json → Option α) : Option α := do
  read (← r.get? name)

/-- The reading of a field whose value may be null. -/
def unlessNull {α : Type} (read : Json → Option α) : Json → Option (Option α)
  | null => some none
  | j => (read j).map some

/-- A field that may be missing or null. -/
def optional {α : Type} (r : Record) (name : String) (read : Json → Option α) :
    Option (Option α) :=
  match r.get? name with
  | none => some none
  | some j => unlessNull read j

/-- A field that may be null, and that only an object may leave out. -/
def nullable {α : Type} (r : Record) (name : String) (read : Json → Option α) :
    Option (Option α) :=
  match r.get? name with
  | none => if r.listed then none else some none
  | some j => unlessNull read j

end Record

/-! ## Names -/

/-- Whether a value says nothing: null, and where `orEmpty` an object without members. -/
def isNothing (orEmpty : Bool) : Json → Bool
  | null => true
  | obj [] => orEmpty
  | _ => false

/-- **A name of a fixed set**, as a string or as the only key of an object whose value says
nothing. -/
def named? {α : Type} (table : List (String × α)) (orEmpty : Bool) : Json → Option α
  | str s => table.lookup s
  | obj [(key, j)] => if isNothing orEmpty j then table.lookup key else none
  | _ => none

end FleetCompliance.Json
