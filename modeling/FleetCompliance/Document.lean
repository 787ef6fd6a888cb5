import FleetCompliance.Batch.Fault
import FleetCompliance.Fleet
import FleetCompliance.Geography.Codec
import FleetCompliance.Policy.Codec
import FleetCompliance.Verdict.Codec

/-!
# Documents

A document is the text of a file: a list of policies, geographies, devices, events or snapshots, or
one value by itself.
-/

namespace FleetCompliance

/-- A value that a text has to hold. -/
def decodeWith {α : Type} (read : Json → Option α) (text : String) : Except ModelFault α :=
  match (Json.parse? text).bind read with
  | some x => .ok x
  | none => .error .malformed

/-- A document of geographies. A shape in it stands inside of a list and a record. -/
def Geography.decodeText : String → Except ModelFault (List Geography) :=
  decodeWith (Json.listOf (ofJson? (some 2)))

/-- A document of devices. -/
def Device.decodeText : String → Except ModelFault (List Device) :=
  decodeWith (Json.listOf ofJson?)

/-- A document of events. -/
def Event.decodeText : String → Except ModelFault (List Event) :=
  decodeWith (Json.listOf ofJson?)

/-- A document of snapshots. -/
def Snapshot.decodeText : String → Except ModelFault (List Snapshot) :=
  decodeWith (Json.listOf ofJson?)

/-- A document that is one fleet. -/
def Fleet.decodeText : String → Except ModelFault Fleet := decodeWith ofJson?

/-- A document that is one verdict. -/
def Verdict.decodeText : String → Except ModelFault (Verdict UInt64) := decodeWith ofJson?

/-- A document that is one rule. It is kept as a whole before its fields are looked at. -/
def Rule.decodeText : String → Except ModelFault Rule :=
  decodeWith fun j => do ofJson? (← Json.kept (some 0) j)

/-- The way to read a file. -/
abbrev FileReader (m : Type → Type) := String → m (Except FileFault String)

/-- **Reads a file of a known form**, with the file named in every fault. -/
def readDocument {m : Type → Type} [Monad m] {α : Type} (read : FileReader m)
    (decode : String → Except ModelFault α) (path : String) : ExceptT AdapterFault m α := do
  match ← read path with
  | .error fault => throw (.io path fault)
  | .ok text =>
    match decode text with
    | .error fault => throw (.decode path fault)
    | .ok x => return x

end FleetCompliance
