import FleetCompliance.Text.Integer

/-!
# The shortest decimal of a double

A double stands for every real number that rounds to it. Of the decimals in that interval the one
with the fewest digits is chosen, and of several with equally few the one nearest to the double; if
two are equally near, the one whose last digit is even.

The search goes over grids of powers of ten, the coarsest first. If any point of a grid lies in the
interval, then so does one of the two grid points around the double, so two candidates a grid
suffice.
-/

namespace FleetCompliance

/-- A finite double without its sign: `mantissa * 2 ^ exponent`. -/
structure Binary where
  mantissa : Nat
  exponent : Int

/-- A decimal: `digits * 10 ^ exponent`. -/
structure Decimal where
  digits : Nat
  exponent : Int

namespace Binary

/-- The value of the leading bit of a normal double's mantissa, which is not stored: `2 ^ 52`. -/
def leadingBit : Nat := 0x10000000000000

/-- The magnitude of a finite double, from its bits: 52 of the mantissa, 11 of the exponent. -/
def ofFloat (x : Float) : Binary :=
  let bits := x.toBits.toNat
  let fraction := bits % leadingBit
  let biased := bits / leadingBit % 0x800
  if biased = 0 then ⟨fraction, -1074⟩ else ⟨leadingBit + fraction, Int.ofNat biased - 1075⟩

/-- A positive power of two as a factor of the numerator, a negative one as a factor of the
denominator. -/
def power (base : Nat) (e : Int) : Nat × Nat :=
  if 0 ≤ e then (base.pow e.toNat, 1) else (1, base.pow (-e).toNat)

/-- The grid point that comes nearest, of those on the grid of `10 ^ e` that read back as `b`. All
is measured in quarters of `b`'s last place: `b` is `4 * mantissa` of them, and the interval ends
half a place away, below a power of two half as far. The ends belong to it if the mantissa is
even. -/
def onGrid? (b : Binary) (e : Int) : Option Decimal :=
  let (twoUp, twoDown) := power 2 (b.exponent - 2)
  let (tenUp, tenDown) := power 10 e
  let scale := twoUp * tenDown
  let point := tenUp * twoDown
  let value := 4 * b.mantissa * scale
  let high := value + 2 * scale
  let low := value - (if b.mantissa = leadingBit ∧ -1074 < b.exponent then scale else 2 * scale)
  let inside (n : Nat) :=
    if b.mantissa % 2 = 0 then low ≤ n * point && n * point ≤ high
    else low < n * point && n * point < high
  let below := value / point
  let above := below + 1
  match inside below && 0 < below, inside above with
  | true, true =>
    let before := value - below * point
    let after := above * point - value
    if before < after ∨ before = after ∧ below % 2 = 0 then some ⟨below, e⟩ else some ⟨above, e⟩
  | true, false => some ⟨below, e⟩
  | false, true => some ⟨above, e⟩
  | false, false => none

/-- An exponent of ten whose grid has no point but zero below `b`: `301 / 1000` is a little less
than the number of digits a bit is worth. -/
def coarsest (b : Binary) : Int := (Nat.log2 b.mantissa + b.exponent + 1) * 301 / 1000 + 2

/-- **The shortest decimal that reads back**, looked for on twenty-four grids, the coarsest first.
A grid of seventeen digits always has a point. -/
def shortest (b : Binary) : Decimal :=
  if b.mantissa = 0 then ⟨0, 0⟩
  else ((List.range 24).findSome? fun (k : Nat) => b.onGrid? (b.coarsest - k)).getD ⟨0, 0⟩

end Binary

/-- How a decimal is laid out: which positions of the point are written out in full. -/
structure Layout where
  /-- The greatest number of digits before the point. -/
  wholeDigits : Int
  /-- The greatest number of zeros between the point and the first digit. -/
  leadingZeros : Int

/-- **The text of a decimal.** Within the layout's bounds all places are written, and at least one
after the point; beyond them there is one digit before the point, and an exponent without plus
sign. -/
def Decimal.text (layout : Layout) (d : Decimal) : String :=
  let digits := Nat.toDigits 10 d.digits
  let length : Int := digits.length
  let point := length + d.exponent
  if 0 ≤ d.exponent ∧ point ≤ layout.wholeDigits then
    String.ofList (digits ++ List.replicate d.exponent.toNat '0' ++ ['.', '0'])
  else if 0 < point ∧ point ≤ layout.wholeDigits then
    String.ofList (digits.take point.toNat ++ ['.'] ++ digits.drop point.toNat)
  else if -layout.leadingZeros ≤ point ∧ point ≤ 0 then
    String.ofList (['0', '.'] ++ List.replicate (-point).toNat '0' ++ digits)
  else
    let fraction := if digits.length = 1 then [] else '.' :: digits.drop 1
    String.ofList (digits.take 1 ++ fraction) ++ "e" ++ toString (point - 1)

/-- A finite double as text, by the shortest decimal that reads back. -/
def Layout.float (layout : Layout) (x : Float) : String :=
  let magnitude := (Binary.ofFloat x).shortest.text layout
  if Text.maxInt64 < x.toBits.toNat then "-" ++ magnitude else magnitude

end FleetCompliance
