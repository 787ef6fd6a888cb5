import FleetCompliance.Replay

/-!
# Arguments of the command line

The command line names one of two commands and its options. An option has a long name, and its value
follows an equals sign or is the next argument. A few switches may stand anywhere.
-/

namespace FleetCompliance.CommandLine

/-- One argument by its form. -/
inductive Argument where
  /-- Two hyphens and a name, with what follows an equals sign. -/
  | long (name : String) (value : Option String)
  /-- One hyphen and letters. -/
  | letters (ls : List Char)
  /-- Two hyphens alone. -/
  | separator
  /-- Anything else. -/
  | word (text : String)

/-- The form of an argument. -/
def Argument.ofString (s : String) : Argument :=
  match s.toList with
  | ['-', '-'] => separator
  | '-' :: '-' :: cs =>
    let name := String.ofList (cs.takeWhile (· ≠ '='))
    match cs.dropWhile (· ≠ '=') with
    | '=' :: value => long name (some (String.ofList value))
    | _ => long name none
  | '-' :: c :: cs => letters (c :: cs)
  | _ => word s

/-- What was asked for instead of a command. -/
inductive Request where
  | version
  | help
deriving DecidableEq, Repr

/-- What a part of the command line holds. -/
structure Reading where
  /-- The options with their values. -/
  values : List (String × String)
  /-- What is asked for instead of a command; nothing after it is looked at. -/
  request : Option Request
  /-- The words from the first one on that is no option. -/
  rest : List String

/-- Nothing read. -/
def Reading.empty : Reading := ⟨[], none, []⟩

/-- An option in front of what is read already. -/
def Reading.addFront (r : Reading) (name value : String) : Reading :=
  { r with values := (name, value) :: r.values }

/-- The switch that may be given only once. -/
def singleSwitch : String := "log-json"

/-- Whether a word may be the value of the option before it. A hyphen may only stand alone. -/
def isValue (s : String) : Bool :=
  match Argument.ofString s with
  | .word _ => true
  | _ => false

/-- What the letters after a hyphen ask for. The letter `v` asks for nothing that shows. -/
def letterRequest? (hasVersion : Bool) : List Char → Option (Option Request)
  | [] => some none
  | 'v' :: rest => letterRequest? hasVersion rest
  | 'h' :: _ => some (some .help)
  | 'V' :: _ => if hasVersion then some (some .version) else none
  | _ => none

/-- The switches without a value, and what they ask for. -/
def switchRequest? (hasVersion : Bool) : String → Option (Option Request)
  | "verbose" => some none
  | "log-json" => some none
  | "help" => some (some .help)
  | "version" => if hasVersion then some (some .version) else none
  | _ => none

/-- **Reads options** up to the first word that is none, or up to a request. `options` are the
options with a value. A fault in the usage gives nothing. -/
def readOptions (options : List String) (hasVersion : Bool) : List String → Option Reading
  | [] => some .empty
  | arg :: args =>
    match Argument.ofString arg with
    | .word _ => some ⟨[], none, arg :: args⟩
    | .separator => if args.isEmpty then some .empty else none
    | .letters ls => do
      match ← letterRequest? hasVersion ls with
      | some request => some ⟨[], some request, []⟩
      | none => readOptions options hasVersion args
    | .long name (some value) =>
      if options.contains name then
        (readOptions options hasVersion args).map (·.addFront name value)
      else none
    | .long name none =>
      if options.contains name then
        match args with
        | value :: args =>
          if isValue value then (readOptions options hasVersion args).map (·.addFront name value)
          else none
        | [] => none
      else do
        match ← switchRequest? hasVersion name with
        | some request => some ⟨[], some request, []⟩
        | none =>
          let more ← readOptions options hasVersion args
          some (if name = singleSwitch then more.addFront name "" else more)

/-! ## Commands -/

/-- What a batch is asked for. -/
structure BatchRequest where
  /-- The directory of the store's documents. -/
  fixtures : String
  /-- The file that snapshots are added to, if they are not to be printed. -/
  output : Option String
  /-- The settings file. -/
  config : Option String

/-- What the command line asks for. -/
inductive Invocation where
  | evaluate (request : ReplayRequest)
  | batch (request : BatchRequest)
  | version
  | help

/-- The options of `evaluate`. -/
def evaluateOptions : List String :=
  ["geographies", "devices", "events", "policies", "provider-id", "policy-id", "now", "timezone",
   "config"]

/-- The options of `batch`. -/
def batchOptions : List String := ["fixtures", "output", "config"]

/-- The options that name a file, whose value must not be empty. -/
def pathOptions : List String :=
  ["geographies", "devices", "events", "policies", "fixtures", "output", "config"]

/-- The options whose value must be an identifier. -/
def identifierOptions : List String := ["provider-id", "policy-id"]

/-- Whether a text writes an identifier. -/
def isIdentifier (s : String) : Bool := (Identifier.parse? s : Option (Identifier .provider)).isSome

/-- Whether an option may have a value. -/
def isSound (option value : String) : Bool :=
  !(pathOptions.contains option && value.isEmpty)
    && (!identifierOptions.contains option || isIdentifier value)

/-- Whether each option stands there once at most, with a value that it may have. -/
def areSound (values : List (String × String)) : Bool :=
  (values.map (·.1)).Nodup && values.all fun v => isSound v.1 v.2

/-- An option that may be missing, with a value of some form. -/
def optionalValue? {α : Type} (values : List (String × String)) (name : String)
    (read : String → Option α) : Option (Option α) :=
  match values.lookup name with
  | none => some none
  | some v => (read v).map some

/-- The request of `evaluate`. -/
def replayRequest? (values : List (String × String)) : Option ReplayRequest := do
  return {
    geographies := ← values.lookup "geographies"
    devices := ← values.lookup "devices"
    events := ← values.lookup "events"
    policies := ← values.lookup "policies"
    providerId := ← Identifier.parse? (← values.lookup "provider-id")
    policyId := ← optionalValue? values "policy-id" Identifier.parse?
    now := values.lookup "now"
    timezone := values.lookup "timezone" }

/-- The request of `batch`. A settings file may also be named in front of the command. -/
def batchRequest? (outer values : List (String × String)) : Option BatchRequest := do
  return {
    fixtures := ← values.lookup "fixtures"
    output := values.lookup "output"
    config := values.lookup "config" <|> outer.lookup "config" }

/-- The options of a command. -/
def commandOptions? : String → Option (List String)
  | "evaluate" => some evaluateOptions
  | "batch" => some batchOptions
  | _ => none

/-- A command with the options in front of it and the arguments behind it. -/
def readCommand? (outer : List (String × String)) (command : String) (args : List String) :
    Option Invocation := do
  let inner ← readOptions (← commandOptions? command) false args
  if areSound inner.values then
    match inner.request, inner.rest with
    | some .help, _ => some .help
    | some .version, _ => some .version
    | none, _ :: _ => none
    | none, [] =>
      if command = "batch" then (batchRequest? outer inner.values).map .batch
      else (replayRequest? inner.values).map .evaluate
  else none

/-- What the help can be about: a command, or the help itself. -/
def helpTopics : List String := ["evaluate", "batch", "help"]

/-- Whether the words after `help` are at most one topic. -/
def isHelpTopic : List String → Bool
  | [] => true
  | [topic] => helpTopics.contains topic
  | _ => false

/-- **What the command line asks for**; nothing if it is not used as it should be. -/
def parse? (args : List String) : Option Invocation := do
  let outer ← readOptions ["config"] true args
  if areSound outer.values then
    match outer.request, outer.rest with
    | some .version, _ => some .version
    | some .help, _ => some .help
    | none, "help" :: topics => if isHelpTopic topics then some .help else none
    | none, command :: args => readCommand? outer.values command args
    | none, [] => none
  else none

end FleetCompliance.CommandLine
