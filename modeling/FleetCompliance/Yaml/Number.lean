import FleetCompliance.Text.Integer
import FleetCompliance.Yaml.Tag
import FleetCompliance.Yaml.Scalar.Basic

/-!
# Scalars as values

Which scalars are null and which are whole numbers. Only a plain scalar can be either, except that a
number may also be written line by line if its tag says that it is one.
-/

namespace FleetCompliance.Yaml

/-- Whether a text is a word for null. -/
def isNullWord (s : String) : Bool := ["~", "null", "Null", "NULL"].contains s

/-- **Whether a scalar stands for the absence of a value.** One that is said to be null has to be a
word for it; one that is said to be something else is there. -/
def Scalar.isNull? (v : Scalar) : Option Bool :=
  match v.style, v.tag with
  | .plain, none => some (v.text.isEmpty || isNullWord v.text)
  | .plain, some tag =>
    if tag = nullTag then (if isNullWord v.text then some true else none) else some false
  | _, _ => some false

/-- The value of a digit of any base up to sixteen. -/
def digitOf? (base : Nat) (c : Char) : Option Nat := do
  let d ← Text.hexValue? c
  if d < base then some d else none

/-- The number that digits write in some base. -/
def natural? (base : Nat) (cs : List Char) : Option Nat :=
  if cs.isEmpty then none
  else cs.foldlM (fun n c => do some (n * base + (← digitOf? base c))) 0

/-- The number after any sign. In decimal it has no leading zero, so that `007` stays a text. -/
def magnitude? : List Char → Option Nat
  | '0' :: 'x' :: cs => natural? 16 cs
  | '0' :: 'o' :: cs => natural? 8 cs
  | '0' :: 'b' :: cs => natural? 2 cs
  | ['0'] => some 0
  | '0' :: _ => none
  | cs => natural? 10 cs

/-- Whether a scalar may be a number. -/
def Scalar.mayBeNumber (v : Scalar) : Bool :=
  match v.style with
  | .plain => true
  | .literal => v.tag == some intTag
  | _ => false

/-- The natural number that a scalar writes, in decimal or with a letter for the base. -/
def Scalar.nat? (v : Scalar) : Option Nat :=
  if v.mayBeNumber then
    match v.text.toList with
    | '+' :: cs => magnitude? cs
    | cs => magnitude? cs
  else none

/-- The integer that a scalar writes, with a sign in front or none. -/
def Scalar.int? (v : Scalar) : Option Int :=
  match v.text.toList with
  | '-' :: cs => if v.mayBeNumber then (magnitude? cs).map fun n => -Int.ofNat n else none
  | _ => v.nat?.map Int.ofNat

end FleetCompliance.Yaml
