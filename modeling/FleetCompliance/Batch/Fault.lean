import FleetCompliance.Fault
import FleetCompliance.Total

/-!
# What can go wrong in a batch

A batch reads from stores and writes to a sink, each of which may fail. Some failures pass, so that
trying again may help; those that lie in the data or in the settings would come back every time.
-/

namespace FleetCompliance

/-- Why a file could not be read or written. -/
inductive FileFault where
  /-- No file bears the name. -/
  | notFound
  /-- The bytes are no text. -/
  | notText
  /-- The system gives its own reason. -/
  | other (reason : String)
deriving DecidableEq, Repr

/-- The wording of a file fault. -/
def FileFault.message : FileFault → String
  | notFound => "No such file or directory (os error 2)"
  | notText => "stream did not contain valid UTF-8"
  | other reason => reason

/-- A fault of a store or sink. -/
inductive AdapterFault where
  /-- An operation was refused. -/
  | unavailable (operation reason : String)
  /-- A file could not be read or written. -/
  | io (path : String) (fault : FileFault)
  /-- A file holds data that cannot be used. -/
  | decode (path : String) (fault : ModelFault)
deriving DecidableEq, Repr

namespace AdapterFault

/-- What failed, without the cause beneath it. -/
def headline : AdapterFault → String
  | unavailable operation _ => operation ++ " unavailable"
  | io path _ => "I/O error on " ++ path
  | decode path _ => "malformed data in " ++ path

/-- The reason given for a fault. -/
def reason : AdapterFault → String
  | unavailable _ reason => reason
  | io _ fault => fault.message
  | decode _ fault => fault.message

/-- The wording of a fault of a store or sink. -/
def message (f : AdapterFault) : String := f.headline ++ ": " ++ f.reason

/-- Whether the operation may succeed when tried again. -/
def isRetryable : AdapterFault → Bool
  | unavailable .. => true
  | io .. => true
  | decode .. => false

end AdapterFault

/-- A fault in the settings of a batch. -/
inductive ConfigFault where
  /-- No usable time zone. -/
  | zone (fault : TimeZone.Fault)
  /-- A variable is no number of its range. Its value is given as it stands. -/
  | invalidNumber (key value : String) (fault : Text.IntegerFault)
  | batchSizeZero
  | windowNotPositive
  /-- More hours than can be counted in milliseconds. -/
  | windowOutOfRange (hours : Int)
  /-- The settings file is no list of settings. -/
  | malformedFile
  | unreadableFile (path : String) (fault : FileFault)
  /-- Another reason. -/
  | stated (reason : String)
deriving DecidableEq, Repr

/-- The reason given for a fault in the settings. -/
def ConfigFault.reason : ConfigFault → String
  | zone fault => fault.reason
  | invalidNumber key value fault =>
    "invalid " ++ key ++ "=" ++ Text.quoted value ++ ": " ++ fault.message
  | batchSizeZero => "COMPLIANCE_BATCH_SIZE must be at least 1"
  | windowNotPositive => "COMPLIANCE_EVENT_WINDOW_HOURS must be positive"
  | windowOutOfRange hours =>
    "COMPLIANCE_EVENT_WINDOW_HOURS=" ++ toString hours ++ " is out of range"
  | malformedFile => "invalid config file"
  | unreadableFile path fault => "cannot read " ++ path ++ ": " ++ fault.message
  | stated reason => reason

/-- A fault that ends a batch, or an attempt at it. -/
inductive BatchFault where
  | config (fault : ConfigFault)
  | engine (fault : EngineFault)
  | adapter (fault : AdapterFault)
  /-- A part of the work broke off, for the reason that is told of it. -/
  | task (reason : String)
  /-- The violations of all snapshots are too many for a word. This is not reported as a fault: the
  program itself breaks off. -/
  | overflow
deriving DecidableEq, Repr

namespace BatchFault

/-- The wording of a batch fault. -/
def message : BatchFault → String
  | config fault => "configuration error: " ++ fault.reason
  | engine fault => fault.message
  | adapter fault => fault.message
  | task reason => "batch task failed: " ++ reason
  | overflow => Total.overflowReason

/-- **Whether the batch may succeed when tried again.** -/
def isRetryable : BatchFault → Bool
  | config _ => false
  | engine _ => false
  | adapter fault => fault.isRetryable
  | task _ => true
  | overflow => false

end BatchFault

/-- How a call of a store or sink fails: with a fault of its own, or by breaking off, of which a
reason is told. -/
inductive CallFault where
  | failed (fault : AdapterFault)
  | brokeOff (reason : String)
deriving DecidableEq, Repr

/-- A failed call as the fault of a batch. -/
def BatchFault.ofCall : CallFault → BatchFault
  | .failed fault => .adapter fault
  | .brokeOff reason => .task reason

end FleetCompliance
