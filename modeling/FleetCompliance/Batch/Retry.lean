import FleetCompliance.Batch.Fault

/-!
# Trying again

A batch that fails is run again from the start, a limited number of times, and only after a fault
that may pass. Between two attempts there is a delay, which doubles each time up to a limit.
-/

namespace FleetCompliance

/-- How often and after what delays to try again. -/
structure RetryPolicy where
  /-- The number of attempts after the first. -/
  maxRetries : Nat
  /-- The first delay, in milliseconds. -/
  baseDelay : Nat
  /-- The greatest delay, in milliseconds. -/
  maxDelay : Nat
deriving DecidableEq, Repr

namespace RetryPolicy

/-- The factor of the delay after an attempt: a power of two, as long as it fits in 32 bits, and
from then on the greatest number that does. -/
def factor (attempt : Nat) : Nat := if attempt < 32 then Nat.pow 2 attempt else Text.maxWord32

/-- The milliseconds beyond which a span of time cannot be counted: its seconds have 64 bits. -/
def spanLimit : Nat := UInt64.size * 1000

/-- **The delay after an attempt**, in milliseconds. Attempts are counted from zero. -/
def delayFor (p : RetryPolicy) (attempt : Nat) : Nat :=
  let delay := p.baseDelay * factor attempt
  if delay < spanLimit then min delay p.maxDelay else p.maxDelay

end RetryPolicy

section Supervision

variable {m : Type → Type} [Monad m] {α : Type}

/-- Attempts from number `n` on, with `left` further ones to follow if they are needed. -/
def superviseFrom (p : RetryPolicy) (wait : Nat → m Unit)
    (attempt : Nat → m (Except BatchFault α)) (n : Nat) : Nat → m (Except BatchFault α)
  | 0 => attempt n
  | left + 1 => do
    match ← attempt n with
    | .ok result => return .ok result
    | .error fault =>
      if fault.isRetryable then
        wait (p.delayFor n)
        superviseFrom p wait attempt (n + 1) left
      else return .error fault

/-- **Runs attempts until one succeeds**, fails for good, or is the last one allowed. An attempt is
told its number. -/
def supervise (p : RetryPolicy) (wait : Nat → m Unit)
    (attempt : Nat → m (Except BatchFault α)) : m (Except BatchFault α) :=
  superviseFrom p wait attempt 0 p.maxRetries

end Supervision

end FleetCompliance
