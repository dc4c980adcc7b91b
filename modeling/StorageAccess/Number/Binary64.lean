/-! Double-precision numbers taken apart into whole numbers, and whole numbers rounded into them. -/
namespace StorageAccess.Binary64

/-- What the bits of a double stand for. -/
inductive Value
  | nan
  | infinite (negative : Bool)
  /-- The number `mantissa * 2 ^ exponent`, negated if `negative` holds. -/
  | finite (negative : Bool) (mantissa : Nat) (exponent : Int)

def value (x : Float) : Value :=
  let bits := x.toBits.toNat
  let negative := bits / 9_223_372_036_854_775_808 == 1
  let scale : Nat := bits / 4_503_599_627_370_496 % 2048
  let fraction : Nat := bits % 4_503_599_627_370_496
  if scale = 2047 then if fraction = 0 then .infinite negative else .nan
  else if scale = 0 then .finite negative fraction (-1074)
  else .finite negative (4_503_599_627_370_496 + fraction) ((scale : Int) - 1075)

/-- The double nearest to `coefficient * 10 ^ exponent`. -/
def ofDecimal (coefficient : Nat) (exponent : Int) : Float :=
  let magnitude := (Nat.toDigits 10 coefficient).length + exponent
  if coefficient = 0 || magnitude < -330 then 0.0
  else if magnitude > 320 then Float.ofBits 0x7FF0000000000000
  else Float.ofScientific coefficient (exponent < 0) exponent.natAbs

/-- A quotient rounded to a whole number, halves to the even neighbour. -/
def roundHalfEven (num den : Nat) : Nat :=
  let q := num / den
  let r := num % den
  if 2 * r < den then q
  else if den < 2 * r then q + 1
  else q + q % 2

end StorageAccess.Binary64
