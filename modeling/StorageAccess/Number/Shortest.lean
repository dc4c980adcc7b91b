import StorageAccess.Number.Binary64

/-! The shortest decimal that reads back as a given double, and among those the nearest to it. All
comparisons are between whole numbers. -/
namespace StorageAccess

/-- The number `coefficient * 10 ^ exponent`. -/
structure Decimal where
  coefficient : Nat
  exponent : Int

namespace Decimal

/-- Drops zeros from the end of the coefficient, at most `fuel` of them. -/
def stripZeros : Nat → Decimal → Decimal
  | 0, d => d
  | fuel + 1, d =>
    if d.coefficient ≠ 0 ∧ d.coefficient % 10 = 0 then
      stripZeros fuel ⟨d.coefficient / 10, d.exponent + 1⟩
    else d

end Decimal

namespace Shortest

/-- Which of two equally near decimals is written. -/
inductive Tie
  | up
  | even

/-- The numbers that round to one double, as quotients by `den`: those between `low` and `high`, with
the ends when `closed` holds, around `mid`. -/
structure Neighbourhood where
  low : Nat
  mid : Nat
  high : Nat
  den : Nat
  closed : Bool

namespace Neighbourhood

/-- The numbers that round to `mantissa * 2 ^ exponent`. Below a power of two doubles lie closer. -/
def around (mantissa : Nat) (exponent : Int) : Neighbourhood :=
  let low := if mantissa = 4_503_599_627_370_496 ∧ exponent > -1074 then 4 * mantissa - 1 else 4 * mantissa - 2
  let up := Nat.pow 2 (exponent - 2).toNat
  ⟨low * up, 4 * mantissa * up, (4 * mantissa + 2) * up, Nat.pow 2 (2 - exponent).toNat,
    mantissa % 2 == 0⟩

/-- The same numbers in units of `10 ^ exponent`. -/
def inUnits (n : Neighbourhood) (exponent : Int) : Neighbourhood :=
  let up := Nat.pow 10 (-exponent).toNat
  ⟨n.low * up, n.mid * up, n.high * up, n.den * Nat.pow 10 exponent.toNat, n.closed⟩

def contains (n : Neighbourhood) (k : Nat) : Bool :=
  let x := k * n.den
  if n.closed then n.low ≤ x && x ≤ n.high else n.low < x && x < n.high

/-- The whole number in the neighbourhood next to its middle. -/
def nearest? (tie : Tie) (n : Neighbourhood) : Option Nat :=
  let k := n.mid / n.den
  let rest := 2 * (n.mid % n.den)
  match n.contains k, n.contains (k + 1) with
  | true, true =>
    if rest < n.den then some k
    else if n.den < rest then some (k + 1)
    else match tie with
      | .up => some (k + 1)
      | .even => some (k + k % 2)
  | true, false => some k
  | false, true => some (k + 1)
  | false, false => none

end Neighbourhood

/-- The least `j ≤ fuel` with `den ≤ num * 10 ^ j`. -/
def leadingZeros : Nat → Nat → Nat → Nat
  | 0, _, _ => 0
  | fuel + 1, num, den => if den ≤ num then 0 else leadingZeros fuel (num * 10) den + 1

/-- How many digits the quotient has before its point, negative for zeros after it. -/
def pointPosition (num den : Nat) : Int :=
  if den ≤ num then (Nat.toDigits 10 (num / den)).length
  else 1 - (leadingZeros 400 num den : Int)

/-- Tries one digit more in each step. -/
def search (tie : Tie) (n : Neighbourhood) : Nat → Int → Option Decimal
  | 0, _ => none
  | fuel + 1, exponent =>
    match (n.inUnits exponent).nearest? tie with
    | some k => some (Decimal.stripZeros 20 ⟨k, exponent⟩)
    | none => search tie n fuel (exponent - 1)

end Shortest

/-- The shortest decimal for the positive double `mantissa * 2 ^ exponent`. -/
def Decimal.shortest (tie : Shortest.Tie) (mantissa : Nat) (exponent : Int) : Decimal :=
  let n := Shortest.Neighbourhood.around mantissa exponent
  (Shortest.search tie n 18 (Shortest.pointPosition n.mid n.den - 1)).getD ⟨0, 0⟩

end StorageAccess
