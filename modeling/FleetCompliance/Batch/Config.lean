import FleetCompliance.Batch.Retry
import FleetCompliance.Fleet
import FleetCompliance.Yaml.Entries
import FleetCompliance.Yaml.Number

/-!
# The settings of a batch

Each setting comes from the environment, else from a settings file, else from a default; only the
time zone has none. A variable that is set must be usable even where the file has a value too.
-/

namespace FleetCompliance

/-- The settings in a file. All of them may be absent. -/
structure Settings where
  timezone : Option String
  batchSize : Option Nat
  maxRetries : Option Nat
  retryBaseDelay : Option Nat
  retryMaxDelay : Option Nat
  windowHours : Option Int
deriving DecidableEq, Repr

namespace Settings

/-- No settings at all. -/
def none : Settings := ⟨.none, .none, .none, .none, .none, .none⟩

/-- The names of the settings. -/
def names : List String :=
  ["timezone", "batch_size", "max_retries", "retry_base_delay_ms", "retry_max_delay_ms",
   "event_window_hours"]

/-- The value of a setting, absent if it is not there or null. -/
def value? {α : Type} (entries : List (String × Yaml.Scalar)) (name : String)
    (read : Yaml.Scalar → Option α) : Option (Option α) :=
  match entries.lookup name with
  | .none => some .none
  | some v => do if ← v.isNull? then return .none else return some (← read v)

/-- A natural number up to a bound. -/
def upTo? (bound : Nat) (v : Yaml.Scalar) : Option Nat := do
  let n ← v.nat?
  if n ≤ bound then some n else .none

/-- An integer of 64 bits. -/
def int64? (v : Yaml.Scalar) : Option Int := do
  let n ← v.int?
  if -(Text.maxInt64 + 1 : Int) ≤ n ∧ n ≤ Text.maxInt64 then some n else .none

/-- The settings that the entries of a mapping make. Each name has to be known and to stand there
once. -/
def ofEntries? (entries : List (String × Yaml.Scalar)) : Option Settings := do
  let keys := entries.map (·.1)
  if keys.all names.contains && keys.Nodup then
    return {
      timezone := ← value? entries "timezone" fun v => some v.text
      batchSize := ← value? entries "batch_size" (upTo? Text.maxWord64)
      maxRetries := ← value? entries "max_retries" (upTo? Text.maxWord32)
      retryBaseDelay := ← value? entries "retry_base_delay_ms" (upTo? Text.maxWord64)
      retryMaxDelay := ← value? entries "retry_max_delay_ms" (upTo? Text.maxWord64)
      windowHours := ← value? entries "event_window_hours" int64? }
  else .none

/-- **The settings in the text of a file.** -/
def parse (text : String) : Except ConfigFault Settings :=
  match (Yaml.entries? text).bind ofEntries? with
  | some s => .ok s
  | .none => .error .malformedFile

end Settings

/-- Environment variables by name. -/
abbrev Environment := String → Option String

/-- The settings that a batch runs with. -/
structure Config where
  zone : TimeZone
  /-- The number of snapshots submitted together. -/
  batchSize : Nat
  retry : RetryPolicy
  /-- The time for which events are recent, in milliseconds. -/
  window : Int
deriving DecidableEq, Repr

namespace Config

/-- Snapshots submitted together, unless set. -/
def defaultBatchSize : Nat := 10

/-- Retries, unless set. -/
def defaultMaxRetries : Nat := 5

/-- The first delay in milliseconds, unless set. -/
def defaultBaseDelay : Nat := 1000

/-- The greatest delay in milliseconds, unless set. -/
def defaultMaxDelay : Nat := 30000

/-- The greatest number of hours whose seconds can still be counted in milliseconds by 64 bits. -/
def maxWindowHours : Int := 2562047788015

/-- The number that a variable holds, if it is set. Blanks around it do not count. -/
def numberIn? {α : Type} (env : Environment) (name : String)
    (read : String → Except Text.IntegerFault α) : Except ConfigFault (Option α) :=
  match env name with
  | none => .ok none
  | some value =>
    match read (Text.trim value) with
    | .ok n => .ok (some n)
    | .error fault => .error (.invalidNumber name value fault)

/-- A setting from its variable, else from the file, else its default. -/
def setting {α : Type} (fromEnv fromFile : Option α) (default : α) : α :=
  (fromEnv <|> fromFile).getD default

/-- **The settings of a batch**, from a file and the environment, with the zone from a directory.
The greatest delay is never below the first. -/
def resolve (zones : ZoneDirectory) (file : Settings) (env : Environment) :
    Except ConfigFault Config := do
  let zone ← (TimeZone.required zones (env "TIMEZONE" <|> file.timezone)).mapError .zone
  let batchSize :=
    setting (← numberIn? env "COMPLIANCE_BATCH_SIZE" (Text.readUnsigned Text.maxWord64))
      file.batchSize defaultBatchSize
  if batchSize = 0 then throw .batchSizeZero
  let baseDelay :=
    setting (← numberIn? env "COMPLIANCE_RETRY_BASE_DELAY_MS" (Text.readUnsigned Text.maxWord64))
      file.retryBaseDelay defaultBaseDelay
  let maxDelay :=
    setting (← numberIn? env "COMPLIANCE_RETRY_MAX_DELAY_MS" (Text.readUnsigned Text.maxWord64))
      file.retryMaxDelay defaultMaxDelay
  let maxRetries :=
    setting (← numberIn? env "COMPLIANCE_MAX_RETRIES" (Text.readUnsigned Text.maxWord32))
      file.maxRetries defaultMaxRetries
  let hours :=
    setting (← numberIn? env "COMPLIANCE_EVENT_WINDOW_HOURS" (Text.readSigned Text.maxInt64))
      file.windowHours defaultWindowHours
  if hours ≤ 0 then throw .windowNotPositive
  if maxWindowHours < hours then throw (.windowOutOfRange hours)
  return {
    zone, batchSize
    retry := ⟨maxRetries, baseDelay, max maxDelay baseDelay⟩
    window := hours * hourMillis }

end Config

end FleetCompliance
