import FleetCompliance.Batch.Local
import FleetCompliance.CommandLine.Arguments

/-!
# The commands

`evaluate` replays policies and prints the verdicts; `batch` runs one batch over a directory of
documents and adds the snapshots to a file, or prints them. What the commands need of the world
around them is a `Host`.
-/

namespace FleetCompliance.CommandLine

/-- The world around a command. -/
structure Host (m : Type → Type) where
  env : Environment
  zones : ZoneDirectory
  read : FileReader m
  /-- Makes sure that a file exists and can be added to. -/
  touch : String → m (Except FileFault Unit)
  /-- Adds text at the end of a file. -/
  append : String → String → m (Except FileFault Unit)
  now : m Instant
  newId : m (Identifier .snapshot)
  /-- Lets some milliseconds pass. -/
  wait : Nat → m Unit
  /-- Writes a line to the standard output. -/
  print : String → m Unit
  /-- Writes a line to the standard error. -/
  report : String → m Unit

/-- The name and number of this version. -/
def versionText : String := "mdsc 0.1.0"

/-- How the command line is to be used. -/
def usageText : String :=
  "Usage: mdsc [-v] [--log-json] [--config <FILE>] <COMMAND>\n\n"
    ++ "Commands:\n"
    ++ "  evaluate  --geographies <FILE> --devices <FILE> --events <FILE> --policies <FILE>\n"
    ++ "            --provider-id <ID> [--policy-id <ID>] [--now <TIME>] [--timezone <ZONE>]\n"
    ++ "  batch     --fixtures <DIRECTORY> [--output <FILE>]"

/-- Why a batch command fails. -/
inductive BatchCommandFault where
  /-- No usable settings. -/
  | config (fault : ConfigFault)
  /-- The documents in a directory cannot be used. -/
  | fixtures (directory : String) (fault : AdapterFault)
  /-- The output cannot be opened. -/
  | output (fault : AdapterFault)
  /-- The batch itself has failed. -/
  | run (fault : BatchFault)

/-- The wordings of a batch's fault, with the cause beneath it. -/
def batchFaultChain : BatchFault → List String
  | .adapter fault => fault.chain
  | fault => [fault.message]

/-- The wordings of a batch command's fault, the most general first. -/
def BatchCommandFault.chain : BatchCommandFault → List String
  | config fault => ["loading batch configuration", (BatchFault.config fault).message]
  | fixtures directory fault => ("loading fixtures from " ++ directory) :: fault.chain
  | output fault => fault.chain
  | run fault => "batch run failed" :: batchFaultChain fault

section

variable {m : Type → Type} [Monad m]

/-- The settings of a batch command. -/
def loadConfig (h : Host m) (path : Option String) : ExceptT ConfigFault m Config := do
  let settings ← match path with
    | none => pure Settings.none
    | some path =>
      match ← h.read path with
      | .ok text => ofExcept (Settings.parse text)
      | .error fault => throw (.unreadableFile path fault)
  ofExcept (Config.resolve h.zones settings h.env)

/-- A store, with snapshots going to a file, or to memory if none is named. -/
def storeAdapters (h : Host m) (store : Store) (output : Option String) :
    Adapters (StateT MemorySink m) :=
  let inMemory := store.adapters h.newId
  match output with
  | none => inMemory
  | some path =>
    { inMemory with
      submit := fun batch => do
        match ← h.append path (snapshotLines batch) with
        | .ok () => return ()
        | .error fault => throw (.failed (.io path fault)) }

/-- Runs a batch and returns its report, with the snapshots that went into memory. -/
def runBatch (h : Host m) (r : BatchRequest) :
    ExceptT BatchCommandFault m (Report × MemorySink) := do
  let config ← (loadConfig h r.config).adapt .config
  let store ← (Store.load h.read r.fixtures).adapt (.fixtures r.fixtures)
  if let some path := r.output then
    if let .error fault ← h.touch path then throw (.output (.io path fault))
  let run := runSupervised (storeAdapters h store r.output) config (h.now : m Instant)
    fun delay => (h.wait delay : m Unit)
  match ← run.run .empty with
  | (.ok report, memory) => return (report, memory)
  | (.error fault, _) => throw (.run fault)

/-- The last line of a batch command. -/
def summary (r : Report) : String :=
  toString r.snapshots ++ " snapshot(s) written for " ++ toString r.policies ++ " policy(ies), "
    ++ toString r.violations.toNat ++ " violation(s) as of " ++ r.asOf.text

/-- Reports a fault on one line. -/
def fail (h : Host m) (chain : List String) : m UInt8 := do
  h.report ("error: " ++ chainText chain)
  return 1

/-- Breaks off at an addition: no command goes on from there. -/
def breakOff (h : Host m) : m UInt8 := do
  h.report Total.overflowReason
  return 101

/-- The `evaluate` command. -/
def evaluateCommand (h : Host m) (r : ReplayRequest) : m UInt8 := do
  match ← (replay h.zones h.read h.now (h.env "TIMEZONE") r).run with
  | .error .overflow => breakOff h
  | .error fault => fail h fault.chain
  | .ok evaluations =>
    h.print (Json.indented (.arr (evaluations.map PolicyEvaluation.toJson)))
    return 0

/-- The `batch` command. -/
def batchCommand (h : Host m) (r : BatchRequest) : m UInt8 := do
  match ← (runBatch h r).run with
  | .error (.run .overflow) => breakOff h
  | .error fault => fail h fault.chain
  | .ok (report, memory) =>
    for snapshot in memory.snapshots do h.print snapshot.toJson.compact
    h.report (summary report)
    return 0

/-- **Does what the command line asks for**, and returns the exit code. -/
def execute (h : Host m) (args : List String) : m UInt8 := do
  match parse? args with
  | some (.evaluate r) => evaluateCommand h r
  | some (.batch r) => batchCommand h r
  | some .version => h.print versionText; return 0
  | some .help => h.print usageText; return 0
  | none => h.report usageText; return 2

end

end FleetCompliance.CommandLine
