import GroupSync.Number.Shortest

/-!
# Durations

Whole numbers of nanoseconds up to a fixed greatest duration, the largest that a 64-bit
count of seconds can hold.  Sums saturate there, and a real number of seconds is rounded to
the nearest nanosecond, a tie going to the even one.
-/

namespace GroupSync

def nanosecondsPerSecond : Nat := 1000000000

/-- The nanoseconds of the greatest duration: one short of `2 ^ 64` seconds. -/
def greatestNanoseconds : Nat := 0x10000000000000000 * nanosecondsPerSecond - 1

/-- A span of time, in nanoseconds. -/
structure Duration where
  nanoseconds : Nat
  bounded : nanoseconds ≤ greatestNanoseconds
deriving DecidableEq

namespace Duration

/-- The duration of so many nanoseconds, or the greatest one if that is too many. -/
def ofNanoseconds (nanoseconds : Nat) : Duration :=
  ⟨min nanoseconds greatestNanoseconds, Nat.min_le_right _ _⟩

def ofSeconds (seconds : Nat) : Duration :=
  ofNanoseconds (seconds * nanosecondsPerSecond)

def ofMilliseconds (milliseconds : Nat) : Duration :=
  ofNanoseconds (milliseconds * 1000000)

def zero : Duration :=
  ofNanoseconds 0

def greatest : Duration :=
  ⟨greatestNanoseconds, Nat.le_refl _⟩

instance : Inhabited Duration :=
  ⟨zero⟩

def seconds (duration : Duration) : Nat :=
  duration.nanoseconds / nanosecondsPerSecond

/-- Nanoseconds of a duration beyond its whole seconds. -/
def subsecond (duration : Duration) : Nat :=
  duration.nanoseconds % nanosecondsPerSecond

def milliseconds (duration : Duration) : Nat :=
  duration.nanoseconds / 1000000

/-- Whole milliseconds of a duration, cut off at the greatest 64-bit number. -/
def millisecondsCapped (duration : Duration) : Nat :=
  min duration.milliseconds 0xFFFFFFFFFFFFFFFF

/-- Sum of two durations, the greatest duration if the sum exceeds it. -/
def add (first second : Duration) : Duration :=
  ofNanoseconds (first.nanoseconds + second.nanoseconds)

instance : Add Duration :=
  ⟨add⟩

instance : LE Duration :=
  ⟨fun first second => first.nanoseconds ≤ second.nanoseconds⟩

instance : LT Duration :=
  ⟨fun first second => first.nanoseconds < second.nanoseconds⟩

instance (first second : Duration) : Decidable (first ≤ second) :=
  inferInstanceAs (Decidable (first.nanoseconds ≤ second.nanoseconds))

instance (first second : Duration) : Decidable (first < second) :=
  inferInstanceAs (Decidable (first.nanoseconds < second.nanoseconds))

def shorter (first second : Duration) : Duration :=
  if first ≤ second then first else second

def toFloat (duration : Duration) : Float :=
  (UInt64.ofNat duration.seconds).toFloat +
    (UInt64.ofNat duration.subsecond).toFloat / 1000000000.0

/-- The whole number nearest to a quotient, the even one of two that are equally near. -/
def roundedQuotient (numerator denominator : Nat) : Nat :=
  let below := numerator / denominator
  let doubled := 2 * (numerator % denominator)
  if doubled < denominator then below
  else if denominator < doubled then below + 1
  else if below % 2 = 0 then below
  else below + 1

/-- The duration nearest to a floating-point number of seconds; `none` for a negative or
too large number and for one that is no number. -/
def ofFloat? (value : Float) : Option Duration :=
  let bits := value.toBits
  let magnitude := Number.magnitude bits
  if !Number.isFiniteBits bits then none
  else if Number.isNegativeBits bits && magnitude.mantissa != 0 then none
  else
    let scaled := Number.Fraction.scaled (magnitude.mantissa * nanosecondsPerSecond) 2
      magnitude.exponent
    let nanoseconds := roundedQuotient scaled.numerator scaled.denominator
    if fits : nanoseconds ≤ greatestNanoseconds then some ⟨nanoseconds, fits⟩ else none

end Duration

end GroupSync
