import FleetCompliance.Supersession
import FleetCompliance.Proofs.CountLedger

/-!
# Policies and their replacements

A list of policies is thinned out twice: policies that another one of the list
replaces are dropped, and so are policies that are not in force. The two do
not commute. A replacement counts from the moment at which it is listed, not
from the moment at which it comes into force, so a policy in force may be
dropped for one that is only scheduled, or that has run out.

What can be said of a policy in force that is dropped is therefore that some
listed policy replaces it (`dropped_iff_replaced`), and no more. That the
replacement is in force as well follows where whatever replaces something is
in force, so for a list of policies that are all in force.
-/

namespace FleetCompliance

/-- **A policy replaces another one** if it names it among its predecessors. -/
def Policy.Replaces (q p : Policy) : Prop := p.policyId ∈ q.prevPolicies.getD []

instance : DecidableRel Policy.Replaces := fun q p =>
  inferInstanceAs (Decidable (p.policyId ∈ q.prevPolicies.getD []))

variable {policies : List Policy} {now : Instant} {p : Policy}

/-- The identifiers that a list replaces are those of the policies that one of
its policies replaces. -/
theorem mem_replacedIds_iff : p.policyId ∈ replacedIds policies ↔ ∃ q ∈ policies, q.Replaces p :=
  List.mem_flatMap

/-- Left are the policies that no policy of the list replaces. -/
theorem mem_superseding_iff :
    p ∈ superseding policies ↔ p ∈ policies ∧ ¬ ∃ q ∈ policies, q.Replaces p := by
  rw [superseding, List.mem_filter, ← mem_replacedIds_iff]
  simp

/-- **Selected are the policies in force that no listed policy replaces**,
whether that one is in force or not. -/
theorem mem_selectPolicies_iff :
    p ∈ selectPolicies policies now
      ↔ p ∈ policies ∧ (¬ ∃ q ∈ policies, q.Replaces p) ∧ p.isActive now = true := by
  rw [selectPolicies, List.mem_filter, mem_superseding_iff, and_assoc]

/-- **A policy in force is dropped exactly if some listed policy replaces it.**
If everything listed that replaces something is in force, then so is that
policy. -/
theorem dropped_iff_replaced (hp : p ∈ policies) (hactive : p.isActive now = true) :
    (p ∉ selectPolicies policies now ↔ ∃ q ∈ policies, q.Replaces p)
      ∧ ((∀ q ∈ policies, q.prevPolicies.getD [] ≠ [] → q.isActive now = true) →
        p ∉ selectPolicies policies now →
          ∃ q ∈ policies, q.isActive now = true ∧ q.Replaces p) := by
  have hdropped : p ∉ selectPolicies policies now ↔ ∃ q ∈ policies, q.Replaces p := by
    rw [mem_selectPolicies_iff]
    simp [hp, hactive]
  refine ⟨hdropped, fun hforce hp => ?_⟩
  obtain ⟨q, hq, hreplaces⟩ := hdropped.mp hp
  exact ⟨q, hq, hforce q hq (List.ne_nil_of_mem hreplaces), hreplaces⟩

/-! ### A chain of replacements

The first policy is replaced by the second one, which is in force, and the
second one by a third one that begins a moment later. -/

namespace Sample

/-- A policy in force that replaces the first one. -/
def successorPolicy : Policy := { policy with policyId := id 2, prevPolicies := some [id 1] }

/-- A policy that replaces another one, a moment before it begins. -/
def scheduledPolicy (replaced : Identifier .policy) : Policy :=
  { policy with policyId := id 3, startDate := instant 11, prevPolicies := some [replaced] }

/-- The three policies, each of them replaced by the next one. -/
def chain : List Policy := [policy, successorPolicy, scheduledPolicy (id 2)]

end Sample

/-- The second policy of the chain is dropped for one that is not in force, the
first one for one that is, as the first two policies by themselves show. -/
theorem dropped_iff_replaced_chain :
    (Sample.successorPolicy ∈ Sample.chain
        ∧ Sample.successorPolicy.isActive (Sample.instant 10) = true
        ∧ Sample.successorPolicy ∉ selectPolicies Sample.chain (Sample.instant 10))
      ∧ ∃ q ∈ Sample.chain.take 2,
        q.isActive (Sample.instant 10) = true ∧ q.Replaces Sample.policy := by
  have hsecond : Sample.successorPolicy ∈ Sample.chain := by simp [Sample.chain]
  have hfirst : Sample.policy ∈ Sample.chain.take 2 := List.mem_cons_self
  have hscheduled : ∃ q ∈ Sample.chain, q.Replaces Sample.successorPolicy := by decide
  have hsuccessor : ∃ q ∈ Sample.chain.take 2, q.Replaces Sample.policy := by decide
  have hforce : ∀ q ∈ Sample.chain.take 2, q.prevPolicies.getD [] ≠ [] →
      q.isActive (Sample.instant 10) = true := by decide
  refine ⟨⟨hsecond, rfl, (dropped_iff_replaced hsecond rfl).1.mpr hscheduled⟩, ?_⟩
  have hactive : Sample.policy.isActive (Sample.instant 10) = true := rfl
  obtain ⟨hdropped, hreplaced⟩ := dropped_iff_replaced hfirst hactive
  exact hreplaced hforce (hdropped.mpr hsuccessor)

/-- **A policy in force may be dropped for one that is not in force yet**: no
listed policy that is in force replaces it, and nothing at all is selected. -/
theorem dropped_for_scheduled :
    let policies := [Sample.policy, Sample.scheduledPolicy (Sample.id 1)]
    Sample.policy ∈ policies ∧ Sample.policy.isActive (Sample.instant 10) = true
      ∧ selectPolicies policies (Sample.instant 10) = []
      ∧ ¬ ∃ q ∈ policies, q.isActive (Sample.instant 10) = true ∧ q.Replaces Sample.policy := by
  exact ⟨List.mem_cons_self, rfl, rfl, by decide⟩

end FleetCompliance
