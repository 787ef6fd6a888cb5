import FleetCompliance.Proofs.Replacement
import Mathlib.Data.Set.Finite.List
import Mathlib.Order.WellFoundedSet

/-!
# The succession of policies

Policies are dropped by direct reference, without a look at whether the policy
that makes the reference is dropped itself. So a policy may be dropped for one
that is dropped as well, and it has to be asked whether anything is left in its
place.

Something is, unless the references go round in a circle. From a dropped policy
one goes up to one that replaces it, and from there on as long as there is a
listed policy to go to. This ends, because the listed policies are finitely many
and none is come to twice, and it ends at a policy that nothing replaces. Policies
that are not listed play no part in it, and of policies that share an
identifier either all are dropped or none is.
-/

namespace FleetCompliance

/-- **A listed policy replaces another listed one.** -/
def ReplacesIn (policies : List Policy) (q p : Policy) : Prop :=
  q ∈ policies ∧ p ∈ policies ∧ q.Replaces p

/-- **A listed identifier names another one**: a policy that bears it replaces a
listed policy that bears the other one. -/
def NamesIn (policies : List Policy) (i j : Identifier .policy) : Prop :=
  ∃ q p, ReplacesIn policies q p ∧ q.policyId = i ∧ p.policyId = j

/-- **The references of a list do not go round in a circle**: no listed
identifier leads back to itself, be it by naming itself. -/
def Acyclic (policies : List Policy) : Prop :=
  ∀ i, ¬ Relation.TransGen (NamesIn policies) i i

variable {policies : List Policy} {p : Policy}

/-- Among the policies of a list without circles none replaces itself, also not
by way of others. -/
theorem Acyclic.not_transGen_self (h : Acyclic policies) (p : Policy) :
    ¬ Relation.TransGen (ReplacesIn policies) p p := fun hp =>
  h p.policyId (hp.lift Policy.policyId fun q p hqp => ⟨q, p, hqp, rfl, rfl⟩)

/-- References that always lead further down do not go round in a circle. -/
theorem Acyclic.of_descending (rank : Identifier .policy → ℕ)
    (h : ∀ q ∈ policies, ∀ p ∈ policies, q.Replaces p → rank p.policyId < rank q.policyId) :
    Acyclic policies := by
  have hstep : ∀ {i j}, NamesIn policies i j → rank j < rank i := by
    rintro _ _ ⟨q, p, ⟨hq, hp, hqp⟩, rfl, rfl⟩
    exact h q hq p hp hqp
  have hpath : ∀ {i j}, Relation.TransGen (NamesIn policies) i j → rank j < rank i := by
    intro i j hij
    induction hij with
    | single hnames => exact hstep hnames
    | tail _ hnames ih => exact (hstep hnames).trans ih
  exact fun i hi => lt_irrefl _ (hpath hi)

/-- **Going up from a listed policy ends at one that is kept.** -/
theorem Acyclic.exists_survivor (h : Acyclic policies) (hp : p ∈ policies) :
    ∃ s ∈ superseding policies, Relation.ReflTransGen (ReplacesIn policies) s p := by
  have hstrict : IsStrictOrder Policy (Relation.TransGen (ReplacesIn policies)) :=
    { irrefl := h.not_transGen_self
      trans := fun _ _ _ => Relation.TransGen.trans }
  have hwell : {p | p ∈ policies}.WellFoundedOn (Relation.TransGen (ReplacesIn policies)) :=
    (List.finite_toSet policies).wellFoundedOn
  refine hwell.induction hp (P := fun p => ∃ s ∈ superseding policies,
    Relation.ReflTransGen (ReplacesIn policies) s p) fun p hp ih => ?_
  by_cases hreplaced : ∃ q ∈ policies, q.Replaces p
  · obtain ⟨q, hq, hqp⟩ := hreplaced
    have hstep : ReplacesIn policies q p := ⟨hq, hp, hqp⟩
    obtain ⟨s, hs, hsq⟩ := ih q hq (.single hstep)
    exact ⟨s, hs, hsq.tail hstep⟩
  · exact ⟨p, mem_superseding_iff.mpr ⟨hp, hreplaced⟩, .refl⟩

/-- Of the policies of one identifier all are kept or none is. -/
theorem filter_superseding (hp : p ∈ superseding policies) :
    (superseding policies).filter (·.policyId = p.policyId)
      = policies.filter (·.policyId = p.policyId) := by
  have hkept : p.policyId ∉ replacedIds policies := by
    rw [mem_replacedIds_iff]
    exact (mem_superseding_iff.mp hp).2
  rw [superseding, List.filter_filter]
  refine List.filter_congr fun q _ => ?_
  by_cases hid : q.policyId = p.policyId
  · simp [hid, hkept]
  · simp [hid]

/-- Nothing more is dropped from the policies that are kept. -/
theorem superseding_superseding (policies : List Policy) :
    superseding (superseding policies) = superseding policies := by
  refine List.filter_eq_self.mpr fun p hp => ?_
  have hkept : p.policyId ∉ replacedIds (superseding policies) := by
    rw [mem_replacedIds_iff]
    rintro ⟨q, hq, hqp⟩
    exact (mem_superseding_iff.mp hp).2 ⟨q, (mem_superseding_iff.mp hq).1, hqp⟩
  simpa using hkept

/-- **A dropped policy has a successor that is kept**, if the references of the
list do not go round in a circle: one is led to it from a policy that is kept by
one reference after the other, all between listed policies. So something is
left of a list unless it is empty. What is left stands in its order and as
often as before, and is left by dropping policies from it again. -/
theorem superseding_succession (h : Acyclic policies) :
    (∀ p ∈ policies, p ∉ superseding policies →
        ∃ s ∈ superseding policies, Relation.TransGen (ReplacesIn policies) s p)
      ∧ (policies ≠ [] → superseding policies ≠ [])
      ∧ (superseding policies).Sublist policies
      ∧ (∀ p ∈ superseding policies,
          (superseding policies).filter (·.policyId = p.policyId)
            = policies.filter (·.policyId = p.policyId))
      ∧ superseding (superseding policies) = superseding policies := by
  refine ⟨fun p hp hdropped => ?_, fun hne => ?_, List.filter_sublist,
    fun p hp => filter_superseding hp, superseding_superseding policies⟩
  · obtain ⟨s, hs, hsp⟩ := h.exists_survivor hp
    rcases Relation.reflTransGen_iff_eq_or_transGen.mp hsp with rfl | hpath
    · exact absurd hs hdropped
    · exact ⟨s, hs, hpath⟩
  · obtain ⟨p, hp⟩ := List.exists_mem_of_ne_nil policies hne
    obtain ⟨s, hs, -⟩ := h.exists_survivor hp
    exact List.ne_nil_of_mem hs

/-! ### A chain of replacements and some others

The first policy of the chain is listed once more, and another policy replaces one
that is not listed. -/

namespace Sample

/-- A policy that replaces one that is not listed. -/
def strayPolicy : Policy := { policy with policyId := id 4, prevPolicies := some [id 5] }

/-- The chain and the other policies. -/
def lineage : List Policy := chain ++ [policy, strayPolicy]

/-- The references of the policies lead to smaller identifiers. -/
theorem acyclic_lineage : Acyclic lineage :=
  Acyclic.of_descending Identifier.value (by decide)

end Sample

/-- The first policy is dropped, and one is led to it from the third one, which is
kept. -/
theorem superseding_succession_chain :
    Acyclic Sample.lineage ∧ Sample.policy ∉ superseding Sample.lineage
      ∧ (superseding Sample.lineage).map (·.policyId) = [Sample.id 3, Sample.id 4]
      ∧ ∃ s ∈ superseding Sample.lineage,
        Relation.TransGen (ReplacesIn Sample.lineage) s Sample.policy := by
  have hlisted : Sample.policy ∈ Sample.lineage := List.mem_cons_self
  have hdropped : Sample.policy ∉ superseding Sample.lineage := by
    rw [mem_superseding_iff, not_and_not_right]
    exact fun _ => by decide
  obtain ⟨hsuccessor, -⟩ := superseding_succession Sample.acyclic_lineage
  exact ⟨Sample.acyclic_lineage, hdropped, rfl, hsuccessor _ hlisted hdropped⟩

/-- Two policies that replace each other are both dropped. -/
example : superseding [{ Sample.policy with prevPolicies := some [Sample.id 2] },
    Sample.successorPolicy] = [] := rfl

end FleetCompliance
