import StorageAccess.Number.Shortest

/-! Written forms of doubles. They share the shortest digits and differ in where positional notation
ends and in how whole numbers and exponents look. -/
namespace StorageAccess

/-- The choices of one written form. -/
structure FloatLayout where
  /-- The least exponent of the leading digit that is written with a point instead. -/
  positionalFrom : Int
  /-- The greatest such exponent. -/
  positionalTo : Int
  /-- Whether a whole number ends in `.0`. -/
  keepsPoint : Bool
  /-- Whether a positive exponent has a sign. -/
  plusSign : Bool
  tie : Shortest.Tie
  nan : String
  infinity : String
  minusInfinity : String

namespace FloatLayout

/-- The form in running text: always positional, and without a point for whole numbers. -/
def plain : FloatLayout := ⟨-400, 400, false, false, .up, "NaN", "inf", "-inf"⟩

/-- The form that shows the type: whole numbers keep a point, and very large and small ones have an
exponent. -/
def exact : FloatLayout := ⟨-4, 15, true, false, .up, "NaN", "inf", "-inf"⟩

/-- The form in a document, which has no word for what is not a number. -/
def document : FloatLayout := ⟨-5, 15, true, true, .even, "null", "null", "null"⟩

/-- The digits of a positive decimal with a point. -/
def positional (layout : FloatLayout) (digits : List Char) (leading : Int) : List Char :=
  if leading < 0 then '0' :: '.' :: (List.replicate (-leading - 1).toNat '0' ++ digits)
  else
    let size := leading.toNat + 1
    if digits.length ≤ size then
      digits ++ List.replicate (size - digits.length) '0'
        ++ (if layout.keepsPoint then ['.', '0'] else [])
    else digits.take size ++ '.' :: digits.drop size

/-- The digits of a positive decimal with a power of ten. -/
def scientific (layout : FloatLayout) (digits : List Char) (leading : Int) : List Char :=
  let sign := if leading < 0 then ['-'] else if layout.plusSign then ['+'] else []
  let fraction := if digits.length ≤ 1 then [] else '.' :: digits.drop 1
  digits.take 1 ++ fraction ++ 'e' :: (sign ++ Nat.toDigits 10 leading.natAbs)

def magnitude (layout : FloatLayout) (mantissa : Nat) (exponent : Int) : List Char :=
  if mantissa = 0 then layout.positional ['0'] 0
  else
    let d := Decimal.shortest layout.tie mantissa exponent
    let digits := Nat.toDigits 10 d.coefficient
    let leading := d.exponent + digits.length - 1
    if layout.positionalFrom ≤ leading ∧ leading ≤ layout.positionalTo then
      layout.positional digits leading
    else layout.scientific digits leading

def write (layout : FloatLayout) (x : Float) : String :=
  match Binary64.value x with
  | .nan => layout.nan
  | .infinite negative => if negative then layout.minusInfinity else layout.infinity
  | .finite negative mantissa exponent =>
    String.ofList ((if negative then ['-'] else []) ++ layout.magnitude mantissa exponent)

end FloatLayout

end StorageAccess
