import StorageAccess.Bytes.Hex
import StorageAccess.Text.Utf8

/-! Percent-encoding: a byte written as a percent sign and two hexadecimal digits. -/
namespace StorageAccess.Percent

/-- Letters and digits of ASCII, and the four marks that never need encoding. -/
def isUnreserved (b : UInt8) : Bool :=
  (0x30 ≤ b && b ≤ 0x39) || (0x41 ≤ b && b ≤ 0x5A) || (0x61 ≤ b && b ≤ 0x7A)
    || b == 0x2D || b == 0x2E || b == 0x5F || b == 0x7E

/-- A byte that stands for itself, as a character. -/
def plain (b : UInt8) : Char := Char.ofNat b.toNat

def escaped (b : UInt8) : List Char :=
  ['%', Hex.upperDigit (b.toNat / 16), Hex.upperDigit (b.toNat % 16)]

def encodeByte (b : UInt8) : List Char := if isUnreserved b then [plain b] else escaped b

/-- The text with everything but unreserved characters encoded. -/
def encode (s : String) : String := String.ofList ((Utf8.encode s).flatMap encodeByte)

/-- The byte that a percent sign and two digits at the front of a byte sequence stand for. -/
def escapedByte? (sign : UInt8) : List UInt8 → Option UInt8
  | a :: b :: _ =>
    if sign == 0x25 then do
      let high ← Hex.value? (plain a)
      let low ← Hex.value? (plain b)
      return (high * 16 + low).toUInt8
    else none
  | _ => none

/-- Decoding once the first `skip` bytes are accounted for. -/
def decodeAfter : Nat → List UInt8 → List UInt8
  | _, [] => []
  | skip + 1, _ :: rest => decodeAfter skip rest
  | 0, byte :: rest =>
    match escapedByte? byte rest with
    | some b => b :: decodeAfter 2 rest
    | none => byte :: decodeAfter 0 rest

/-- Replaces percent signs with two digits by the bytes they stand for, and keeps any others. -/
def decode (bytes : List UInt8) : List UInt8 := decodeAfter 0 bytes

end StorageAccess.Percent
