import FleetCompliance.Verdict.Codec
import FleetCompliance.Json.Printer

/-!
# Sinks

Where snapshots go: into memory, batch by batch, or to the end of a file, one JSON value a line.
-/

namespace FleetCompliance

/-- The batches of snapshots submitted so far, in the order in which they arrived. -/
structure MemorySink where
  batches : List (List Snapshot)

namespace MemorySink

/-- Nothing submitted yet. -/
def empty : MemorySink := ⟨[]⟩

/-- Takes a batch in. -/
def submit (s : MemorySink) (batch : List Snapshot) : MemorySink := ⟨s.batches ++ [batch]⟩

/-- All snapshots, in the order in which they arrived. -/
def snapshots (s : MemorySink) : List Snapshot := s.batches.flatten

/-- The number of snapshots in each batch. -/
def batchSizes (s : MemorySink) : List Nat := s.batches.map List.length

end MemorySink

/-- A snapshot on a line of its own. -/
def Snapshot.line (s : Snapshot) : String := s.toJson.compact ++ "\n"

/-- The lines of a batch. -/
def snapshotLines (batch : List Snapshot) : String := String.join (batch.map Snapshot.line)

end FleetCompliance
