import StorageAccess.Duration
import StorageAccess.Time.Civil

/-! Points in time. The nanoseconds of a second may run on past its end, for another second. A leap second is
counted so, after the last second of a minute. -/
namespace StorageAccess

/-- The first second of the first year that a point in time can have. -/
def firstSecond : Int := -8334601228800

/-- The last second of the last such year. -/
def lastSecond : Int := 8210266876799

/-- Seconds and nanoseconds that stand for a point in time. -/
def IsInstant (second : Int) (nanosecond : Nat) : Prop :=
  firstSecond ≤ second ∧ second ≤ lastSecond ∧ nanosecond < 2 * 1_000_000_000

instance (second : Int) (nanosecond : Nat) : Decidable (IsInstant second nanosecond) := by
  unfold IsInstant; infer_instance

/-- A point in time: seconds since the start of 1970, and nanoseconds into the second. -/
structure Instant where
  second : Int
  nanosecond : Nat
  valid : IsInstant second nanosecond
  deriving DecidableEq

namespace Instant

/-- The point in time with the given parts, if they stand for one. -/
def ofParts? (second : Int) (nanosecond : Nat) : Option Instant :=
  if h : IsInstant second nanosecond then some ⟨second, nanosecond, h⟩ else none

/-- The point in time with the given parts. Nanoseconds may run on at the end of a minute only. -/
def ofUnix? (second : Int) (nanosecond : Nat) : Option Instant :=
  if 1_000_000_000 ≤ nanosecond ∧ second % 60 ≠ 59 then none else ofParts? second nanosecond

/-- The order of time: a second that runs on still lies before the next one. -/
def before (a b : Instant) : Bool :=
  a.second < b.second || (a.second == b.second && a.nanosecond < b.nanosecond)

instance : LE Instant :=
  ⟨fun a b => a.second < b.second ∨ a.second = b.second ∧ a.nanosecond ≤ b.nanosecond⟩

theorem before_eq_false_iff {a b : Instant} : b.before a = false ↔ a ≤ b := by
  change _ ↔ a.second < b.second ∨ a.second = b.second ∧ a.nanosecond ≤ b.nanosecond
  simp only [before, Bool.or_eq_false_iff, Bool.and_eq_false_imp, decide_eq_false_iff_not, beq_iff_eq]
  omega

/-- The point in time a while later. What is left of a second that runs on counts from its end. -/
def add? (t : Instant) (d : Duration) : Option Instant :=
  let n := t.nanosecond + d.subsecond
  if 1_000_000_000 ≤ t.nanosecond ∧ d.seconds = 0 ∧ n < 2 * 1_000_000_000 then ofParts? t.second n
  else
    let n := if 1_000_000_000 ≤ t.nanosecond then n - 1_000_000_000 else n
    ofParts? (t.second + d.seconds + n / 1_000_000_000) (n % 1_000_000_000)

def add (t : Instant) (d : Duration) : Except Fault Instant :=
  match t.add? d with
  | some later => .ok later
  | none => .error .instantOverflow

def date (t : Instant) : Date := Date.ofDays (t.second / 86400)

def secondOfDay (t : Instant) : Nat := (t.second % 86400).toNat

def hour (t : Instant) : Nat := t.secondOfDay / 3600

def minute (t : Instant) : Nat := t.secondOfDay / 60 % 60

/-- The second of the minute, the next one where it runs on. It is 60 in a leap second. -/
def secondOfMinute (t : Instant) : Nat := t.secondOfDay % 60 + t.nanosecond / 1_000_000_000

/-- Nanoseconds into the second that `secondOfMinute` counts. -/
def fraction (t : Instant) : Nat := t.nanosecond % 1_000_000_000

end Instant

end StorageAccess
