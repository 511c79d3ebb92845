import GroupSync.Duration
import GroupSync.Number.Unsigned
import GroupSync.Text.Blank

/-!
# Retries of rate-limited requests

A reply that says "too many requests" may be answered by sending the request again after a
delay.  The delay before the `n`-th retry is `base * multiplier ^ n + jitter`, where `base` is
the delay that the reply advises, cut off at a ceiling, or else the default delay.  A policy
holds these settings only; the count of attempts belongs to the loop that sends.
-/

namespace GroupSync

/-- Settings for repeating rate-limited requests. -/
structure RetryPolicy where
  maxRetries : UInt32
  /-- Base delay when the reply advises none. -/
  defaultDelay : Duration
  /-- Growth of the delay from one retry to the next. -/
  multiplier : Float
  /-- Ceiling of the random share of a delay. -/
  maxJitter : Duration
  /-- Ceiling of an advised delay. -/
  maxRetryAfter : Duration

inductive RetryVerdict where
  /-- Wait and send again; `jitter` is the random share of `delay`. -/
  | again (delay jitter : Duration)
  | final
deriving DecidableEq

namespace RetryPolicy

/-- The only status that is ever retried. -/
def retryableStatus : Nat := 429

/-- The ceiling of an advised delay unless set otherwise: one hour. -/
def standardMaxRetryAfter : Duration :=
  .ofSeconds 3600

/-- A policy whose jitter is bounded by its default delay. -/
def new (maxRetries : UInt32) (defaultDelay : Duration) (multiplier : Float) : RetryPolicy where
  maxRetries := maxRetries
  defaultDelay := defaultDelay
  multiplier := multiplier
  maxJitter := defaultDelay
  maxRetryAfter := standardMaxRetryAfter

/-- The policy of a client that sets none: three retries, five seconds, growth by one half. -/
def standard : RetryPolicy :=
  new 3 (.ofSeconds 5) 1.5

/-- The greatest count of attempts that a 32-bit counter holds. -/
def greatestAttempt : Nat := 0xFFFFFFFF

/-- The first attempt and the retries, cut off at the greatest count. -/
def attemptLimit (policy : RetryPolicy) : Nat :=
  min (policy.maxRetries.toNat + 1) greatestAttempt

/-- Power of a floating-point number by repeated squaring, low bits first: `steps` bounds the
bits of the exponent, `result` collects the product. -/
def powerFrom : Nat → Float → Nat → Float → Float
  | 0, _, _, result => result
  | steps + 1, base, exponent, result =>
      let result := if exponent % 2 = 1 then result * base else result
      if exponent / 2 = 0 then result
      else powerFrom steps (base * base) (exponent / 2) result

def power (base : Float) (exponent : Nat) : Float :=
  powerFrom 32 base exponent 1.0

/-- The greatest exponent of the growth factor. -/
def greatestExponent : Nat := 0x7FFFFFFF

/-- The delay that a retry starts from: the advised one, cut off at the ceiling, or else the
default. -/
def baseDelay (policy : RetryPolicy) (advised : Option Duration) : Duration :=
  match advised with
  | some delay => delay.shorter policy.maxRetryAfter
  | none => policy.defaultDelay

/-- The delay before a retry without its random share.  What cannot be expressed as a duration
becomes the greatest one. -/
def backoff (policy : RetryPolicy) (attempt : Nat) (advised : Option Duration) : Duration :=
  let factor := power policy.multiplier (min attempt greatestExponent)
  ((Duration.ofFloat? ((policy.baseDelay advised).toFloat * factor)).getD .greatest)

/-- Decide on the reply to attempt number `attempt`, counted from one.  Only a rate-limited
request is retried, and only while the attempt number is at most the number of retries. -/
def verdict (policy : RetryPolicy) (status attempt : Nat) (advised : Option Duration)
    (jitter : Duration) : RetryVerdict :=
  if status ≠ retryableStatus ∨ policy.maxRetries.toNat < attempt then .final
  else .again (policy.backoff attempt advised + jitter) jitter

/-- Number of different jitters: one for every whole millisecond below the ceiling. -/
def jitterChoices (policy : RetryPolicy) : Nat :=
  policy.maxJitter.millisecondsCapped

/-- The jitter that a random draw selects: a whole number of milliseconds below the ceiling,
or none at all when the ceiling is below one millisecond. -/
def jitter (policy : RetryPolicy) (draw : Nat) : Duration :=
  if policy.jitterChoices = 0 then .zero
  else .ofMilliseconds (draw % policy.jitterChoices)

end RetryPolicy

/-- Read an advised delay given as a whole number of seconds.  A date is not understood. -/
def readRetryAfter? (value : String) : Option Duration :=
  match Number.readUInt64 (Text.trimChars value.toList) with
  | .ok seconds => some (.ofSeconds seconds)
  | .error _ => none

end GroupSync
