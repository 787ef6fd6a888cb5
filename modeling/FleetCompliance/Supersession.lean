import FleetCompliance.Policy.Basic

/-!
# Policies in force

A policy that another one of the list replaces is dropped. Only direct references count, and a
reference counts whether or not the policy that makes it is in force.
-/

namespace FleetCompliance

/-- The policies that a list replaces. -/
def replacedIds (policies : List Policy) : List (Identifier .policy) :=
  policies.flatMap fun p => p.prevPolicies.getD []

/-- **The policies that no policy of the list replaces.** -/
def superseding (policies : List Policy) : List Policy :=
  policies.filter fun p => !(replacedIds policies).contains p.policyId

/-- **The policies to evaluate at an instant**: not replaced, and in force. -/
def selectPolicies (policies : List Policy) (now : Instant) : List Policy :=
  (superseding policies).filter (·.isActive now)

end FleetCompliance
