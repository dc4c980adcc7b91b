/-! Base64 with padding. A byte sequence has one written form, and nothing else is read: the padding
must be there and the bits it leaves over must be zero. -/
namespace StorageAccess.Base64

/-- The digit of a six-bit group. -/
def digit (n : Nat) : Char :=
  if n < 26 then Char.ofNat (65 + n)
  else if n < 52 then Char.ofNat (71 + n)
  else if n < 62 then Char.ofNat (n - 4)
  else if n = 62 then '+'
  else '/'

def value? (c : Char) : Option Nat :=
  if 'A' ≤ c ∧ c ≤ 'Z' then some (c.toNat - 65)
  else if 'a' ≤ c ∧ c ≤ 'z' then some (c.toNat - 71)
  else if '0' ≤ c ∧ c ≤ '9' then some (c.toNat + 4)
  else if c = '+' then some 62
  else if c = '/' then some 63
  else none

def encodeChars : List UInt8 → List Char
  | [] => []
  | [a] => [digit (a.toNat / 4), digit (a.toNat % 4 * 16), '=', '=']
  | [a, b] =>
    [digit (a.toNat / 4), digit (a.toNat % 4 * 16 + b.toNat / 16), digit (b.toNat % 16 * 4), '=']
  | a :: b :: c :: rest =>
    digit (a.toNat / 4) :: digit (a.toNat % 4 * 16 + b.toNat / 16)
      :: digit (b.toNat % 16 * 4 + c.toNat / 64) :: digit (c.toNat % 64) :: encodeChars rest

/-- Four digits for three bytes, padded to a whole group. -/
def encode (bytes : List UInt8) : String := String.ofList (encodeChars bytes)

/-- The bytes of the last group, when it is padded. -/
def decodePadded (a b c d : Char) : Option (List UInt8) :=
  if d = '=' then
    if c = '=' then do
      let x ← value? a
      let y ← value? b
      if y % 16 = 0 then some [(x * 4 + y / 16).toUInt8] else none
    else do
      let x ← value? a
      let y ← value? b
      let z ← value? c
      if z % 4 = 0 then some [(x * 4 + y / 16).toUInt8, (y % 16 * 16 + z / 4).toUInt8] else none
  else none

/-- The bytes of a full group. -/
def decodeFull (a b c d : Char) : Option (List UInt8) := do
  let x ← value? a
  let y ← value? b
  let z ← value? c
  let w ← value? d
  return [(x * 4 + y / 16).toUInt8, (y % 16 * 16 + z / 4).toUInt8, (z % 4 * 64 + w).toUInt8]

def decodeChars : List Char → Option (List UInt8)
  | [] => some []
  | a :: b :: c :: d :: rest =>
    if rest = [] ∧ d = '=' then decodePadded a b c d
    else do
      let bytes ← decodeFull a b c d
      let more ← decodeChars rest
      return bytes ++ more
  | _ => none

def decode? (s : String) : Option (List UInt8) := decodeChars s.toList

end StorageAccess.Base64
