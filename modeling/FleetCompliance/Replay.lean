import FleetCompliance.Batch.Store
import FleetCompliance.Calendar.Rfc3339
import FleetCompliance.Evaluation.Engine

/-!
# Replays

A replay evaluates the policies of a document on one provider's fleet, at any instant. The policies
are taken as they are: whether they are in force or replaced does not matter, so the past can be
looked at again.
-/

namespace FleetCompliance

/-- The verdict on one policy of a replay. -/
structure PolicyEvaluation where
  policyId : Identifier .policy
  policyName : String
  providerId : Identifier .provider
  verdict : Verdict UInt64

/-- An evaluation as JSON. -/
def PolicyEvaluation.toJson (e : PolicyEvaluation) : Json :=
  .obj [("policy_id", e.policyId.toJson), ("policy_name", .str e.policyName),
    ("provider_id", e.providerId.toJson), ("result", e.verdict.toJson)]

/-- What a replay is asked for. Documents are given by their paths. -/
structure ReplayRequest where
  geographies : String
  devices : String
  events : String
  policies : String
  providerId : Identifier .provider
  /-- The only policy to evaluate, if not all. -/
  policyId : Option (Identifier .policy)
  /-- The instant as text, if it is not the present. -/
  now : Option String
  /-- The name of the time zone, if it is not in the environment. -/
  timezone : Option String

/-- Why a replay fails. -/
inductive ReplayFault where
  /-- No usable time zone. -/
  | zone (fault : EngineFault)
  /-- No usable instant. -/
  | instant (fault : Instant.TextFault)
  /-- A document cannot be read. -/
  | document (fault : AdapterFault)
  /-- The wanted policy is not in the document. -/
  | policyNotFound (policy : Identifier .policy) (path : String)
  /-- A policy cannot be evaluated. -/
  | evaluation (policy : Identifier .policy) (fault : EngineFault)
  /-- The violations of a policy are too many for a word, where the program breaks off. -/
  | overflow
deriving DecidableEq, Repr

/-- The wording of a fault in the text of an instant. -/
def Instant.TextFault.message : Instant.TextFault → String
  | outOfRange text => "timestamp out of range: " ++ text
  | unrecognized text =>
    "expected RFC 3339 or epoch milliseconds, got " ++ Text.quoted text

/-- The wording of a fault of a store with its cause once more behind it. -/
def AdapterFault.chain : AdapterFault → List String
  | unavailable operation reason => [(unavailable operation reason).message]
  | io path fault => [(io path fault).message, fault.message]
  | decode path fault => [(decode path fault).message, fault.message]

/-- The wordings of a replay's fault, the most general first. -/
def ReplayFault.chain : ReplayFault → List String
  | zone fault => [fault.message]
  | instant fault => [fault.message]
  | document fault => fault.chain
  | policyNotFound policy path => ["policy " ++ policy.text ++ " not found in " ++ path]
  | evaluation policy fault => ["evaluating policy " ++ policy.text, fault.message]
  | overflow => [Total.overflowReason]

/-- A chain of wordings in one line. -/
def chainText (parts : List String) : String := String.intercalate ": " parts

/-- The policies to evaluate: all, or the one that is wanted. -/
def wantedPolicies (policies : List Policy) (wanted : Option (Identifier .policy)) : List Policy :=
  policies.filter fun p => wanted.all (p.policyId = ·)

/-- **Evaluates policies on one provider's part of devices and events.** -/
def replayLists (e : Engine) (geographies : List Geography) (devices : List Device)
    (events : List Event) (policies : List Policy) (provider : Identifier .provider) :
    Except ReplayFault (List PolicyEvaluation) :=
  let fleet := (Store.ofLists [] [] devices events).fleet (some provider)
  policies.mapM fun p => do
    let verdict ← conclude (.evaluation p.policyId) .overflow (e.evaluate p geographies fleet)
    return ⟨p.policyId, p.name, provider, verdict⟩

/-- **A replay.** The zone and the instant are looked at before any document is read. -/
def replay {m : Type → Type} [Monad m] (zones : ZoneDirectory) (read : FileReader m)
    (present : m Instant) (zoneVariable : Option String) (r : ReplayRequest) :
    ExceptT ReplayFault m (List PolicyEvaluation) := do
  let zone ←
    ofExcept ((TimeZone.demanded zones (r.timezone <|> zoneVariable)).mapError ReplayFault.zone)
  let now ← match r.now with
    | some text => ofExcept ((Instant.parse text).mapError ReplayFault.instant)
    | none => present
  let document {α : Type} (decode : String → Except ModelFault α) (path : String) :
      ExceptT ReplayFault m α := (readDocument read decode path).adapt .document
  let geographies ← document Geography.decodeText r.geographies
  let devices ← document Device.decodeText r.devices
  let events ← document Event.decodeText r.events
  let policies := wantedPolicies (← document Policy.decodeText r.policies) r.policyId
  match r.policyId with
  | some wanted => if policies.isEmpty then throw (.policyNotFound wanted r.policies)
  | none => pure ()
  ofExcept <| replayLists (Engine.ofClock ⟨now, zone⟩) geographies devices events policies
    r.providerId

end FleetCompliance
