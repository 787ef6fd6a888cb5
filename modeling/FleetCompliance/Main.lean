import FleetCompliance.CommandLine.Commands
import FleetCompliance.CommandLine.Zones
import Std.Time

/-!
# The program

The commands in the real world: files, the system clock and random identifiers.
-/

namespace FleetCompliance

/-- The reason of a failed file operation. -/
def fileFault : IO.Error → FileFault
  | .noFileOrDirectory .. => .notFound
  | e => .other (toString e)

/-- A file operation with its failure as a value. -/
def attempt {α : Type} (act : IO α) : IO (Except FileFault α) := do
  try return .ok (← act) catch e => return .error (fileFault e)

/-- The text of a file. -/
def readText (path : String) : IO (Except FileFault String) := do
  match ← attempt (IO.FS.readBinFile path) with
  | .error fault => return .error fault
  | .ok bytes =>
    match String.fromUTF8? bytes with
    | some text => return .ok text
    | none => return .error .notText

/-- Adds text at the end of a file, which is made if it does not exist. -/
def appendText (path text : String) : IO (Except FileFault Unit) :=
  attempt do
    let file ← IO.FS.Handle.mk path .append
    file.putStr text
    file.flush

/-- The present. -/
def present : IO Instant := do
  let now ← Std.Time.Timestamp.now
  return (Instant.ofMillis? now.toMillisecondsSinceUnixEpoch.val).getD .earliest

/-- A random identifier. -/
def randomId {e : Entity} : IO (Identifier e) := do
  let bytes ← IO.getRandomBytes 16
  return Identifier.ofRandom (bytes.foldl (fun n b => n * 256 + b.toNat) 0)

/-- The environment variables that the commands look at. -/
def variableNames : List String :=
  ["TIMEZONE", "COMPLIANCE_BATCH_SIZE", "COMPLIANCE_MAX_RETRIES",
   "COMPLIANCE_RETRY_BASE_DELAY_MS", "COMPLIANCE_RETRY_MAX_DELAY_MS",
   "COMPLIANCE_EVENT_WINDOW_HOURS"]

/-- The real world around a command. -/
def realHost : IO (CommandLine.Host IO) := do
  let env ← variableNames.mapM fun name => return (name, ← IO.getEnv name)
  return {
    env := fun name => (env.lookup name).join
    zones := CommandLine.zoneDirectory
    read := readText
    touch := fun path => appendText path ""
    append := appendText
    now := present
    newId := randomId
    wait := fun delay => IO.sleep (UInt32.ofNat (min delay Text.maxWord32))
    print := fun line => IO.println line
    report := fun line => IO.eprintln line }

end FleetCompliance

/-- The entry point. -/
def main (args : List String) : IO UInt32 := do
  return (← FleetCompliance.CommandLine.execute (← FleetCompliance.realHost) args).toUInt32
