import FleetCompliance.Batch.Fault
import FleetCompliance.Fleet

/-!
# Gathering fleets

Which providers a policy is evaluated for, and their fleets. If any policy binds all providers, the
fleets of all are fetched at once; otherwise each provider that some policy names is fetched by
itself.
-/

namespace FleetCompliance

/-- Fleets by provider, in the order of the providers. -/
abbrev Fleets := List (Identifier .provider × Fleet)

namespace Fleets

/-- The fleet of a provider; one without devices and events if it has none. -/
def fleetOf (fs : Fleets) (p : Identifier .provider) : Fleet := (fs.lookup p).getD Fleet.empty

end Fleets

/-- The providers that policies name, in order. -/
def namedProviders (policies : List Policy) : List (Identifier .provider) :=
  Identifier.ascending (policies.flatMap fun p => p.restriction.getD [])

section Fetching

variable {m : Type → Type} [Monad m]

/-- A way to fetch the fleet of one provider, or of all. -/
abbrev FleetSource (m : Type → Type) :=
  Option (Identifier .provider) → ExceptT CallFault m Fleet

/-- Fetches providers one by one. Of what comes back only the provider's own part is kept, if there
is any. -/
def gatherEach (fetch : FleetSource m) : List (Identifier .provider) → ExceptT CallFault m Fleets
  | [] => return []
  | p :: rest => do
    let own := (← fetch (some p)).byProvider.lookup p
    let others ← gatherEach fetch rest
    return (own.map fun fleet => (p, fleet)).toList ++ others

/-- **Fetches the fleets that policies need.** -/
def gather (fetch : FleetSource m) (policies : List Policy) : ExceptT CallFault m Fleets := do
  if policies.any (·.restriction.isNone) then return (← fetch none).byProvider
  else gatherEach fetch (namedProviders policies)

end Fetching

/-- **The providers that a policy is evaluated for**: those that it names, each once and in its
order, or all that have a fleet. -/
def providersFor (p : Policy) (fleets : Fleets) : List (Identifier .provider) :=
  match p.restriction with
  | some named => named.eraseDups
  | none => fleets.map (·.1)

end FleetCompliance
