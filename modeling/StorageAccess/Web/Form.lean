import StorageAccess.Text.Join
import StorageAccess.Web.Percent

/-! Lists of named values in one text, as HTML forms send them: pairs between ampersands, an equals
sign inside each, a plus sign for a space. -/
namespace StorageAccess.Form

/-- The bytes that forms leave as they are. -/
def isPlain (b : UInt8) : Bool :=
  (0x30 ≤ b && b ≤ 0x39) || (0x41 ≤ b && b ≤ 0x5A) || (0x61 ≤ b && b ≤ 0x7A)
    || b == 0x2A || b == 0x2D || b == 0x2E || b == 0x5F

def encodeByte (b : UInt8) : List Char :=
  if isPlain b then [Percent.plain b] else if b == 0x20 then ['+'] else Percent.escaped b

def encodeText (s : String) : String := String.ofList ((Utf8.encode s).flatMap encodeByte)

/-- One pair, with an equals sign also before an empty value. -/
def encodePair (pair : String × String) : String :=
  encodeText pair.1 ++ "=" ++ encodeText pair.2

def encode (pairs : List (String × String)) : String := joinWith "&" (pairs.map encodePair)

def decodeBytes (bytes : List UInt8) : String :=
  Utf8.decodeLossy (Percent.decode (bytes.map fun b => if b == 0x2B then 0x20 else b))

/-- What stands before the first equals sign, and what stands after it. -/
def decodePair (bytes : List UInt8) : String × String :=
  (decodeBytes (bytes.takeWhile (· != 0x3D)), decodeBytes ((bytes.dropWhile (· != 0x3D)).drop 1))

/-- The stretches between ampersands that are not empty. -/
def segments (bytes : List UInt8) : List (List UInt8) :=
  (bytes.splitOnP (· == 0x26)).filter (!·.isEmpty)

def decode (s : String) : List (String × String) := (segments (Utf8.encode s)).map decodePair

end StorageAccess.Form
