import StorageAccess.Fault
import StorageAccess.Number.Binary64

/-! Lengths of time in whole nanoseconds, up to `2 ^ 64` seconds less one nanosecond. Sums and products
stop at the greatest one. -/
namespace StorageAccess

/-- The greatest length of time in nanoseconds. -/
def longestDelay : Nat := 18_446_744_073_709_551_615_999_999_999

structure Duration where
  nanoseconds : Nat
  le_longest : nanoseconds ≤ longestDelay
  deriving DecidableEq

namespace Duration

/-- As many nanoseconds, or the greatest length there is. -/
def saturating (n : Nat) : Duration := ⟨min n longestDelay, Nat.min_le_right _ _⟩

theorem nanoseconds_saturating {n : Nat} (h : n ≤ longestDelay) : (saturating n).nanoseconds = n :=
  Nat.min_eq_left h

def zero : Duration := ⟨0, Nat.zero_le _⟩

def longest : Duration := ⟨longestDelay, Nat.le_refl _⟩

def ofMilliseconds (n : UInt64) : Duration := saturating (n.toNat * 1_000_000)

def ofSeconds (n : UInt64) : Duration := saturating (n.toNat * 1_000_000_000)

def seconds (d : Duration) : Nat := d.nanoseconds / 1_000_000_000

/-- Nanoseconds past the last whole second. -/
def subsecond (d : Duration) : Nat := d.nanoseconds % 1_000_000_000

/-- Whole milliseconds, at most `2 ^ 64 - 1`. -/
def milliseconds (d : Duration) : Nat := min (d.nanoseconds / 1_000_000) 18_446_744_073_709_551_615

instance : LE Duration := ⟨fun a b => a.nanoseconds ≤ b.nanoseconds⟩
instance : LT Duration := ⟨fun a b => a.nanoseconds < b.nanoseconds⟩
instance (a b : Duration) : Decidable (a ≤ b) := Nat.decLe _ _
instance (a b : Duration) : Decidable (a < b) := Nat.decLt _ _
instance : Min Duration := ⟨fun a b => if a ≤ b then a else b⟩

def add (a b : Duration) : Duration := saturating (a.nanoseconds + b.nanoseconds)

def times (d : Duration) (n : Nat) : Duration := saturating (d.nanoseconds * n)

/-- Seconds as a double: the whole seconds and the rest are converted apart and added. -/
def toFloat (d : Duration) : Float :=
  d.seconds.toUInt64.toFloat + d.subsecond.toUInt64.toFloat / 1000000000.0

/-- The nearest length of time to a number of seconds that is not negative. -/
def ofFloat (x : Float) : Except Fault Duration :=
  match Binary64.value x with
  | .finite negative mantissa exponent =>
    let n := Binary64.roundHalfEven (mantissa * 1_000_000_000 * Nat.pow 2 exponent.toNat)
      (Nat.pow 2 (-exponent).toNat)
    if h : (negative = false ∨ mantissa = 0) ∧ n ≤ longestDelay then .ok ⟨n, h.2⟩
    else .error .durationOverflow
  | _ => .error .durationOverflow

/-- The length times a factor, computed in seconds. -/
def scale (d : Duration) (factor : Float) : Except Fault Duration := ofFloat (factor * d.toFloat)

/-- The digits of `n / unit` with a point, without zeros at the end. -/
def decimalText (n unit : Nat) : String :=
  let fraction := (Nat.toDigits 10 (unit + n % unit)).drop 1
  let shown := (fraction.reverse.dropWhile (· == '0')).reverse
  String.ofList
    (Nat.toDigits 10 (n / unit) ++ if shown.isEmpty then [] else '.' :: shown)

/-- The length in the greatest unit of which it holds one. -/
def text (d : Duration) : String :=
  let n := d.nanoseconds
  if n ≥ 1_000_000_000 then decimalText n 1_000_000_000 ++ "s"
  else if n ≥ 1_000_000 then decimalText n 1_000_000 ++ "ms"
  else if n ≥ 1000 then decimalText n 1000 ++ "µs"
  else decimalText n 1 ++ "ns"

end Duration

end StorageAccess
