import StorageAccess.Duration

/-! How long to wait before each further attempt. Delays grow up to a cap; jitter scales each by a random
factor around one. -/
namespace StorageAccess

/-- Any rule for the delays. A run asks for the delay before each retry once, so a rule that has a memory
does in one run what some rule without it does. -/
structure Strategy where
  /-- The delay before a retry, without anything random. -/
  bound : UInt32 → Duration
  /-- The delay before a retry, given a random number between zero and one. -/
  delay : UInt32 → Float → Except Fault Duration

inductive Growth
  /-- By the same amount each time. -/
  | linear
  /-- To the double each time. -/
  | exponential
  deriving DecidableEq

namespace Growth

def text : Growth → String
  | .linear => "linear"
  | .exponential => "exponential"

/-- The greatest number of base delays that a delay is made of. -/
def greatestFactor : Nat := 4_294_967_295

/-- How many base delays come before a retry. No wait comes before the first try, and the number stays
below `2 ^ 32`. -/
def factor (g : Growth) (retry : UInt32) : Nat :=
  match g with
  | .linear => retry.toNat
  | .exponential =>
    if retry = 0 then 0
    else if retry.toNat ≤ 32 then Nat.pow 2 (retry.toNat - 1)
    else greatestFactor

/-- The jitter of a strategy for which none is given. -/
def usualJitter : Growth → Float
  | .linear => 0.0
  | .exponential => 0.2

end Growth

structure Backoff where
  growth : Growth
  base : Duration
  cap : Duration
  /-- How far factors may lie from one. -/
  jitter : Float

namespace Backoff

/-- The delay before a retry, without jitter. -/
def bound (b : Backoff) (retry : UInt32) : Duration := min (b.base.times (b.growth.factor retry)) b.cap

/-- The jitter, at most one. -/
def spread (b : Backoff) : Float := if b.jitter < 1.0 then b.jitter else 1.0

/-- The factor for a number between zero and one. -/
def factorAt (b : Backoff) (unit : Float) : Float :=
  (1.0 - b.spread) + unit * ((1.0 + b.spread) - (1.0 - b.spread))

def cappedScale (b : Backoff) (d : Duration) (factor : Float) : Except Fault Duration :=
  (d.scale factor).map (min · b.cap)

/-- The delay before a retry. A random number between zero and one gives the factor. -/
def delay (b : Backoff) (retry : UInt32) (unit : Float) : Except Fault Duration :=
  if b.jitter ≤ 0.0 || (b.bound retry).nanoseconds = 0 then .ok (b.bound retry)
  else b.cappedScale (b.bound retry) (b.factorAt unit)

def strategy (b : Backoff) : Strategy := ⟨b.bound, b.delay⟩

instance : Coe Backoff Strategy := ⟨strategy⟩

/-- Whether different random numbers give different factors. -/
def isRandom (b : Backoff) : Bool :=
  !(b.jitter ≤ 0.0) && (1.0 - b.spread != 1.0 || 1.0 + b.spread != 1.0)

end Backoff

end StorageAccess
