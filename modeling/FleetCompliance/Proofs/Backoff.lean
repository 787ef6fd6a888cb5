import FleetCompliance.Batch.Retry
import Mathlib.Algebra.Order.Ring.Nat
import Mathlib.Order.Monotone.Basic

/-!
# Delays that do not wrap

The delay after an attempt doubles each time until it reaches its limit. There
are two other limits on the way. The factor is a word of 32 bits, and the
greatest such word is not a power of two. The delay is a span of time, whose
seconds are a word of 64 bits. Where the first is reached the factor stays as
it is, and where the second is reached the greatest delay is taken.

Neither is seen in the result. The factor is the smaller one of two numbers
(`factor_eq_min`), of which the first doubles and the second stays. A span beyond its
limit is beyond the greatest delay as well, which is itself a span. So the delay
is the smaller one of two exact numbers (`delayFor_eq_min`).

In numbers of any size nothing can wrap around. So the same is computed with words
(`delaySpan`), in which it could, and comes out equal (`delaySpan_eq`).
-/

namespace FleetCompliance

/-! ## Exact delays -/

namespace RetryPolicy

/-- **The factor is a power of two or the greatest word**, whichever is
smaller. -/
theorem factor_eq_min (attempt : ℕ) : factor attempt = min (2 ^ attempt) (2 ^ 32 - 1) := by
  unfold factor
  split
  · rename_i h
    have hpow : 2 ^ attempt ≤ 2 ^ 31 := Nat.pow_le_pow_right (by decide) (Nat.le_of_lt_succ h)
    exact (min_eq_left (hpow.trans (by decide))).symm
  · rename_i h
    have hpow : 2 ^ 32 ≤ 2 ^ attempt := Nat.pow_le_pow_right (by decide) (not_lt.mp h)
    exact (min_eq_right ((by decide : 2 ^ 32 - 1 ≤ 2 ^ 32).trans hpow)).symm

/-- The factor does not go down. -/
theorem factor_mono : Monotone factor := by
  intro a b h
  rw [factor_eq_min, factor_eq_min]
  exact min_le_min_right _ (Nat.pow_le_pow_right (by decide) h)

variable {p : RetryPolicy}

/-- **The delay is the product or the greatest delay**, whichever is smaller, if
the greatest delay is a span. -/
theorem delayFor_eq_min (h : p.maxDelay < spanLimit) (attempt : ℕ) :
    p.delayFor attempt = min (p.baseDelay * factor attempt) p.maxDelay := by
  show ite _ _ _ = _
  split
  · rfl
  · rename_i hbeyond
    exact (min_eq_right (h.le.trans (not_lt.mp hbeyond))).symm

/-- The delay does not go down. -/
theorem delayFor_mono (h : p.maxDelay < spanLimit) : Monotone p.delayFor := by
  intro a b hab
  rw [delayFor_eq_min h, delayFor_eq_min h]
  exact min_le_min_right _ (Nat.mul_le_mul_left _ (factor_mono hab))

end RetryPolicy

/-- A word of milliseconds is a span. -/
theorem toNat_lt_spanLimit (millis : UInt64) : millis.toNat < RetryPolicy.spanLimit :=
  lt_of_lt_of_le millis.toNat_lt (by decide)

/-! ## Words -/

/-- A product of words of 32 bits, if it is one. -/
def product32? (a b : UInt32) : Option UInt32 :=
  if a.toNat * b.toNat < UInt32.size then some (a * b) else none

/-- A product of words of 64 bits, if it is one. -/
def product64? (a b : UInt64) : Option UInt64 :=
  if a.toNat * b.toNat < UInt64.size then some (a * b) else none

/-- A sum of words of 64 bits, if it is one. -/
def sum64? (a b : UInt64) : Option UInt64 :=
  if a.toNat + b.toNat < UInt64.size then some (a + b) else none

/-- A power of a word of 32 bits, if it is one. -/
def power? (a : UInt32) : ℕ → Option UInt32
  | 0 => some 1
  | n + 1 => do product32? (← power? a n) a

/-- **A power is one word as long as it fits.** -/
theorem power?_eq {a : UInt32} (ha : 0 < a.toNat) (n : ℕ) :
    power? a n = if a.toNat ^ n < UInt32.size then some (UInt32.ofNat (a.toNat ^ n)) else none := by
  induction n with
  | zero => rfl
  | succ n ih =>
    rw [power?, ih]
    by_cases hn : a.toNat ^ n < UInt32.size
    · rw [if_pos hn]
      show product32? _ a = _
      rw [product32?, UInt32.toNat_ofNat_of_lt' hn, ← pow_succ]
      refine if_congr Iff.rfl (congrArg some ?_) rfl
      rw [pow_succ, UInt32.ofNat_mul, UInt32.ofNat_toNat]
    · have hsucc : ¬ a.toNat ^ (n + 1) < UInt32.size := fun h =>
        hn (lt_of_le_of_lt (Nat.pow_le_pow_right ha (Nat.le_succ n)) h)
      rw [if_neg hn, if_neg hsucc]
      rfl

/-- The factor as it is computed: the greatest word where the power is none. -/
theorem toNat_getD_power? (attempt : ℕ) :
    ((power? 2 attempt).getD 4294967295).toNat = RetryPolicy.factor attempt := by
  have htwo : (2 : UInt32).toNat = 2 := rfl
  rw [power?_eq (by decide), RetryPolicy.factor_eq_min, htwo]
  by_cases h : 2 ^ attempt < UInt32.size
  · have hle : 2 ^ attempt ≤ 2 ^ 32 - 1 := Nat.le_pred_of_lt h
    rw [if_pos h, min_eq_left hle]
    exact UInt32.toNat_ofNat_of_lt' h
  · have hle : 2 ^ 32 - 1 ≤ 2 ^ attempt := (Nat.pred_le _).trans (not_lt.mp h)
    rw [if_neg h, min_eq_right hle]
    rfl

/-- **A span of time as it is counted**: whole seconds, and nanoseconds that do not make
another one. -/
structure Span where
  seconds : UInt64
  nanos : UInt32
  nanos_lt : nanos.toNat < 1000000000

namespace Span

/-- All of a span in nanoseconds. -/
def nanoseconds (s : Span) : ℕ := s.seconds.toNat * 1000000000 + s.nanos.toNat

/-- Milliseconds below a second make nanoseconds below a second. -/
theorem toNat_nanos_ofMillis (millis : UInt64) :
    ((millis % 1000).toUInt32 * 1000000).toNat = millis.toNat % 1000 * 1000000 := by
  have hmillion : (1000000 : UInt32).toNat = 1000000 := rfl
  have hthousand : (1000 : UInt64).toNat = 1000 := rfl
  rw [UInt32.toNat_mul, UInt64.toNat_toUInt32, UInt64.toNat_mod, hmillion, hthousand]
  omega

/-- A number of milliseconds as a span. -/
def ofMillis (millis : UInt64) : Span where
  seconds := millis / 1000
  nanos := (millis % 1000).toUInt32 * 1000000
  nanos_lt := by
    rw [toNat_nanos_ofMillis]
    omega

/-- No millisecond is lost. -/
theorem nanoseconds_ofMillis (millis : UInt64) :
    (ofMillis millis).nanoseconds = millis.toNat * 1000000 := by
  have hseconds : (millis / 1000).toNat = millis.toNat / 1000 := UInt64.toNat_div _ _
  show (millis / 1000).toNat * 1000000000 + ((millis % 1000).toUInt32 * 1000000).toNat = _
  rw [hseconds, toNat_nanos_ofMillis]
  omega

/-- The nanoseconds of a multiple, the seconds aside. A word of 64 bits has room for
them. -/
def product (s : Span) (k : UInt32) : UInt64 := s.nanos.toUInt64 * k.toUInt64

/-- They do not wrap. -/
theorem toNat_product (s : Span) (k : UInt32) :
    (s.product k).toNat = s.nanos.toNat * k.toNat := by
  have hfits : s.nanos.toNat * k.toNat < 2 ^ 64 :=
    calc s.nanos.toNat * k.toNat ≤ 1000000000 * 2 ^ 32 :=
          Nat.mul_le_mul s.nanos_lt.le k.toNat_lt.le
      _ < 2 ^ 64 := by decide
  rw [product, UInt64.toNat_mul, UInt32.toNat_toUInt64, UInt32.toNat_toUInt64,
    Nat.mod_eq_of_lt hfits]

/-- **A multiple of a span**, if its seconds can be counted. -/
def times? (s : Span) (k : UInt32) : Option Span := do
  let seconds ← sum64? (← product64? s.seconds k.toUInt64) (s.product k / 1000000000)
  return {
    seconds
    nanos := (s.product k % 1000000000).toUInt32
    nanos_lt := by
      have hbillion : (1000000000 : UInt64).toNat = 1000000000 := rfl
      rw [UInt64.toNat_toUInt32, UInt64.toNat_mod, hbillion]
      omega }

/-- **A multiple is exact**, and there is none if it is no span. -/
theorem map_nanoseconds_times? (s : Span) (k : UInt32) :
    (s.times? k).map nanoseconds
      = if s.nanoseconds * k.toNat < UInt64.size * 1000000000 then some (s.nanoseconds * k.toNat)
        else none := by
  have hbillion : (1000000000 : UInt64).toNat = 1000000000 := rfl
  have hcarry : (s.product k / 1000000000).toNat = s.nanos.toNat * k.toNat / 1000000000 := by
    rw [UInt64.toNat_div, toNat_product, hbillion]
  have hrest : (s.product k % 1000000000).toUInt32.toNat
      = s.nanos.toNat * k.toNat % 1000000000 := by
    rw [UInt64.toNat_toUInt32, UInt64.toNat_mod, toNat_product, hbillion]
    omega
  have hsplit : s.nanoseconds * k.toNat
      = (s.seconds.toNat * k.toNat + s.nanos.toNat * k.toNat / 1000000000) * 1000000000
        + s.nanos.toNat * k.toNat % 1000000000 := by
    rw [nanoseconds, Nat.add_mul, Nat.add_mul, Nat.add_assoc, Nat.div_add_mod']
    rw [Nat.mul_right_comm]
  have hlimit : s.nanoseconds * k.toNat < UInt64.size * 1000000000
      ↔ s.seconds.toNat * k.toNat + s.nanos.toNat * k.toNat / 1000000000 < UInt64.size := by
    rw [hsplit]
    omega
  -- too many seconds show in their product, or only when the carry is added
  by_cases hseconds : s.seconds.toNat * k.toNat < UInt64.size
  · have hproduct : (s.seconds * k.toUInt64).toNat = s.seconds.toNat * k.toNat := by
      rw [UInt64.toNat_mul, UInt32.toNat_toUInt64]
      exact Nat.mod_eq_of_lt hseconds
    rw [times?, product64?, UInt32.toNat_toUInt64, if_pos hseconds]
    show Option.map _ (Option.bind (sum64? _ _) _) = _
    rw [sum64?, hproduct, hcarry]
    by_cases hsum : s.seconds.toNat * k.toNat + s.nanos.toNat * k.toNat / 1000000000 < UInt64.size
    · rw [if_pos hsum, if_pos (hlimit.mpr hsum)]
      refine congrArg some ?_
      show (_ + _ : UInt64).toNat * 1000000000 + (UInt64.toUInt32 _).toNat = _
      rw [UInt64.toNat_add, hproduct, hcarry, Nat.mod_eq_of_lt hsum, hrest, hsplit]
    · rw [if_neg hsum, if_neg (hlimit.not.mpr hsum)]
      rfl
  · have hbeyond : ¬ s.nanoseconds * k.toNat < UInt64.size * 1000000000 := fun h =>
      hseconds (lt_of_le_of_lt (Nat.le_add_right _ _) (hlimit.mp h))
    rw [times?, product64?, UInt32.toNat_toUInt64, if_neg hseconds, if_neg hbeyond]
    rfl

/-- The shorter one of two spans. -/
def shorter (s t : Span) : Span :=
  if s.seconds < t.seconds ∨ s.seconds = t.seconds ∧ s.nanos ≤ t.nanos then s else t

/-- Spans compare as their nanoseconds do. -/
theorem nanoseconds_shorter (s t : Span) :
    (s.shorter t).nanoseconds = min s.nanoseconds t.nanoseconds := by
  have hs := s.nanos_lt
  have ht := t.nanos_lt
  have hle : (s.seconds < t.seconds ∨ s.seconds = t.seconds ∧ s.nanos ≤ t.nanos)
      ↔ s.nanoseconds ≤ t.nanoseconds := by
    rw [UInt64.lt_iff_toNat_lt, ← UInt64.toNat_inj, UInt32.le_iff_toNat_le, nanoseconds,
      nanoseconds]
    omega
  rw [shorter]
  split
  · rename_i h
    exact (min_eq_left (hle.mp h)).symm
  · rename_i h
    exact (min_eq_right (not_le.mp (hle.not.mp h)).le).symm

end Span

/-- **The delay after an attempt, computed with words** from milliseconds. The factor is the
greatest word where the power is none, and the delay is the greatest one where the
multiple is none. -/
def delaySpan (base greatest : UInt64) (attempt : UInt32) : Span :=
  match (Span.ofMillis base).times? ((power? 2 attempt.toNat).getD 4294967295) with
  | some delay => delay.shorter (.ofMillis greatest)
  | none => .ofMillis greatest

/-- **With words the delay comes out the same.** -/
theorem nanoseconds_delaySpan (retries : ℕ) (base greatest : UInt64) (attempt : UInt32) :
    (delaySpan base greatest attempt).nanoseconds
      = RetryPolicy.delayFor ⟨retries, base.toNat, greatest.toNat⟩ attempt.toNat * 1000000 := by
  have htimes := (Span.ofMillis base).map_nanoseconds_times?
    ((power? 2 attempt.toNat).getD 4294967295)
  rw [toNat_getD_power?, Span.nanoseconds_ofMillis, Nat.mul_right_comm] at htimes
  have hlimit : base.toNat * RetryPolicy.factor attempt.toNat * 1000000
        < UInt64.size * 1000000000
      ↔ base.toNat * RetryPolicy.factor attempt.toNat < RetryPolicy.spanLimit := by
    rw [RetryPolicy.spanLimit]
    omega
  show _ = ite _ _ _ * 1000000
  by_cases hspan : base.toNat * RetryPolicy.factor attempt.toNat < RetryPolicy.spanLimit
  · rw [if_pos (hlimit.mpr hspan)] at htimes
    obtain ⟨delay, hdelay, hnanos⟩ := Option.map_eq_some_iff.mp htimes
    rw [delaySpan, hdelay, if_pos hspan, ← Nat.mul_min_mul_right, ← hnanos,
      ← Span.nanoseconds_ofMillis]
    exact delay.nanoseconds_shorter _
  · rw [if_neg (hlimit.not.mpr hspan)] at htimes
    rw [delaySpan, Option.map_eq_none_iff.mp htimes, if_neg hspan]
    exact Span.nanoseconds_ofMillis greatest

/-- **Delays that do not wrap.** For a first and a greatest delay of any number of
milliseconds in a word, and for attempts that are counted with 32 bits, the delays do not go down
and never exceed the greatest one. They are the exact powers of two of the first delay as
long as these have 32 bits, and its greatest multiple from then on, cut off at the
greatest delay. The delay is the same if it is computed with words. -/
theorem delayFor_backoff (retries : ℕ) (base greatest : UInt64) {a b : UInt32} (h : a ≤ b) :
    let p : RetryPolicy := ⟨retries, base.toNat, greatest.toNat⟩
    p.delayFor a.toNat ≤ p.delayFor b.toNat
      ∧ p.delayFor b.toNat ≤ greatest.toNat
      ∧ (a.toNat < 32 → p.delayFor a.toNat = min (base.toNat * 2 ^ a.toNat) greatest.toNat)
      ∧ (32 ≤ a.toNat → p.delayFor a.toNat = min (base.toNat * (2 ^ 32 - 1)) greatest.toNat)
      ∧ (delaySpan base greatest a).nanoseconds = p.delayFor a.toNat * 1000000 := by
  intro p
  have hgreatest : p.maxDelay < RetryPolicy.spanLimit := toNat_lt_spanLimit greatest
  refine ⟨RetryPolicy.delayFor_mono hgreatest (UInt32.le_iff_toNat_le.mp h), ?_, fun ha => ?_,
    fun ha => ?_, nanoseconds_delaySpan retries base greatest a⟩
  · rw [RetryPolicy.delayFor_eq_min hgreatest]
    exact min_le_right _ _
  · rw [RetryPolicy.delayFor_eq_min hgreatest, RetryPolicy.factor, if_pos ha]
    rfl
  · rw [RetryPolicy.delayFor_eq_min hgreatest, RetryPolicy.factor, if_neg (not_lt.mpr ha)]
    rfl

/-- With the longest of all greatest delays, that of a second doubles up to the attempt with
number 31 and does not double after it. The longest of all first delays is cut off there, as its
multiple is no span. -/
theorem delayFor_backoff_longest :
    let p : RetryPolicy := ⟨5, 1000, 18446744073709551615⟩
    let longest : RetryPolicy := ⟨5, 18446744073709551615, 18446744073709551615⟩
    (31 : UInt32) ≤ 32 ∧ (32 : UInt32) ≤ 4294967295
      ∧ p.delayFor 31 = 2147483648000
      ∧ p.delayFor 32 = 4294967295000
      ∧ p.delayFor 32 ≤ p.delayFor 4294967295
      ∧ (delaySpan 1000 18446744073709551615 32).nanoseconds = 4294967295000000000
      ∧ longest.delayFor 31 = 18446744073709551615 := by
  intro p longest
  have hle : (31 : UInt32) ≤ 32 := by decide
  have hle' : (32 : UInt32) ≤ 4294967295 := by decide
  obtain ⟨-, -, hdoubled, -, -⟩ := delayFor_backoff 5 1000 18446744073709551615 hle
  obtain ⟨hmono, -, -, hstays, hwords⟩ := delayFor_backoff 5 1000 18446744073709551615 hle'
  obtain ⟨-, -, hcut, -, -⟩ :=
    delayFor_backoff 5 18446744073709551615 18446744073709551615 hle
  have hlast : p.delayFor 32 = 4294967295000 := (hstays (by decide)).trans (by decide)
  exact ⟨hle, hle', (hdoubled (by decide)).trans (by decide), hlast, hmono,
    hwords.trans (congrArg (· * 1000000) hlast), (hcut (by decide)).trans (by decide)⟩

end FleetCompliance
