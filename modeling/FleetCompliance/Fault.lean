import FleetCompliance.Policy.Basic
import FleetCompliance.Calendar.TimeZone
import FleetCompliance.Text.Quoted

/-!
# What can go wrong in documents and in evaluation

Each fault is a cause with the data that belongs to it. Its wording is in one place, `message`.
-/

namespace FleetCompliance

/-- The name of a kind of rule. -/
def RuleKind.name : RuleKind → String
  | count => "count"
  | speed => "speed"
  | time => "time"

/-- A fault in the data that an evaluation works on. -/
inductive ModelFault where
  /-- A rule's kind is none of the three. The policy is given as it names itself. -/
  | unsupportedRuleType (policy ruleType : String)
  /-- Two rules of a policy are of different kinds. -/
  | mixedRuleTypes (policy : Identifier .policy) (first second : RuleKind)
  /-- A text is no time of day. -/
  | invalidTime (text : String)
  /-- A number of milliseconds is beyond the calendar. -/
  | invalidInstant (millis : Int)
  /-- A document is not of the expected form. -/
  | malformed
deriving DecidableEq, Repr

/-- The wording of a fault in the data. -/
def ModelFault.message : ModelFault → String
  | unsupportedRuleType policy ruleType =>
    "unsupported rule type " ++ Text.quoted ruleType ++ " in policy " ++ policy
  | mixedRuleTypes policy first second =>
    "policy " ++ policy.text ++ " mixes rule types " ++ first.name ++ " and " ++ second.name
  | invalidTime text => "invalid time of day " ++ Text.quoted text ++ ": expected HH:MM:SS"
  | invalidInstant millis => "invalid timestamp: " ++ toString millis
  | malformed => "serialization error"

/-- The wording of a fault in the choice of a time zone. -/
def TimeZone.Fault.reason : TimeZone.Fault → String
  | unset => "TIMEZONE must be set"
  | unrecognized name =>
    "unrecognized IANA timezone " ++ Text.quoted name ++ ": failed to parse timezone"

/-- A fault that keeps a policy from being evaluated. -/
inductive EngineFault where
  /-- A setting is unusable, for a stated reason. -/
  | configuration (reason : String)
  /-- A rule is not of the kind that was asked for. -/
  | unsupportedRuleType (policy : Identifier .policy) (expected found : RuleKind)
  /-- A policy has no rules. -/
  | emptyPolicy (policy : Identifier .policy)
  /-- The policy itself is faulty. -/
  | model (fault : ModelFault)
deriving DecidableEq, Repr

/-- The wording of a fault in evaluation. -/
def EngineFault.message : EngineFault → String
  | configuration reason => "configuration error: " ++ reason
  | unsupportedRuleType policy expected found =>
    "unsupported rule type in policy " ++ policy.text ++ ": " ++ expected.name
      ++ " processor cannot evaluate a " ++ found.name ++ " rule"
  | emptyPolicy policy => "policy " ++ policy.text ++ " has no rules"
  | model fault => fault.message

/-- The zone that has to be named, with the fault of an evaluation. -/
def TimeZone.demanded (zones : ZoneDirectory) (name : Option String) :
    Except EngineFault TimeZone :=
  (required zones name).mapError fun f => .configuration f.reason

/-- The instant at a number of milliseconds that has to be in the calendar. -/
def Instant.demanded (millis : Int) : Except ModelFault Instant :=
  match ofMillis? millis with
  | some t => .ok t
  | none => .error (.invalidInstant millis)

/-- The time of day that a text has to write. -/
def TimeOfDay.demanded (text : String) : Except ModelFault TimeOfDay :=
  match parse? text with
  | some t => .ok t
  | none => .error (.invalidTime text)

namespace Policy

/-- **The one kind of a policy's rules**: absent if it has no rules, and a fault that names the
first two different kinds if it mixes them. -/
def ruleKind (p : Policy) : Except ModelFault (Option RuleKind) :=
  match p.rules.map Rule.kind with
  | [] => .ok none
  | first :: rest =>
    match rest.find? (· ≠ first) with
    | some second => .error (.mixedRuleTypes p.policyId first second)
    | none => .ok (some first)

end Policy

end FleetCompliance
