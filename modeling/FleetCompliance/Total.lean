/-!
# Totals

Violations are counted in words of 64 bits. A sum that is too large for a word is not wrapped
around: the program breaks off at the addition, and there is no total from then on.
-/

namespace FleetCompliance

/-- The sum of words so far, unless an addition has left the words. -/
abbrev Total := Option UInt64

namespace Total

/-- The total that a number makes. -/
def ofNat (n : Nat) : Total := if n < UInt64.size then some (UInt64.ofNat n) else none

/-- **Adds a word to a total.** -/
def plus (sum : Total) (x : UInt64) : Total := sum.bind fun n => ofNat (n.toNat + x.toNat)

/-- What the program says where it breaks off at an addition. -/
def overflowReason : String := "attempt to add with overflow"

end Total

end FleetCompliance
