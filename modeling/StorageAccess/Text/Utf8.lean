/-! Text as UTF-8 bytes and back. Reading marks every ill-formed stretch once: an unreadable byte
together with the longest run after it that could still have begun a character. -/
namespace StorageAccess.Utf8

/-- One character as one to four bytes. -/
def encodeChar (c : Char) : List UInt8 :=
  let n := c.toNat
  if n < 0x80 then [n.toUInt8]
  else if n < 0x800 then [(0xC0 + n / 64).toUInt8, (0x80 + n % 64).toUInt8]
  else if n < 0x10000 then
    [(0xE0 + n / 4096).toUInt8, (0x80 + n / 64 % 64).toUInt8, (0x80 + n % 64).toUInt8]
  else
    [(0xF0 + n / 262144).toUInt8, (0x80 + n / 4096 % 64).toUInt8, (0x80 + n / 64 % 64).toUInt8,
      (0x80 + n % 64).toUInt8]

def encodeChars (cs : List Char) : List UInt8 := cs.flatMap encodeChar

def encode (s : String) : List UInt8 := encodeChars s.toList

def isTail (b : UInt8) : Bool := 0x80 ≤ b && b < 0xC0

/-- The second byte after a lead of a three-byte character: no overlong form, no surrogate. -/
def isSecondOfThree (a b : UInt8) : Bool :=
  isTail b && (a != 0xE0 || 0xA0 ≤ b) && (a != 0xED || b < 0xA0)

/-- The second byte after a lead of a four-byte character: no overlong form, nothing past U+10FFFF. -/
def isSecondOfFour (a b : UInt8) : Bool :=
  isTail b && (a != 0xF0 || 0x90 ≤ b) && (a != 0xF4 || b < 0x90)

def joinTwo (a b : UInt8) : Char :=
  Char.ofNat ((a.toNat - 0xC0) * 64 + (b.toNat - 0x80))

def joinThree (a b c : UInt8) : Char :=
  Char.ofNat ((a.toNat - 0xE0) * 4096 + (b.toNat - 0x80) * 64 + (c.toNat - 0x80))

def joinFour (a b c d : UInt8) : Char :=
  Char.ofNat ((a.toNat - 0xF0) * 262144 + (b.toNat - 0x80) * 4096 + (c.toNat - 0x80) * 64
    + (d.toNat - 0x80))

/-- Reads what a lead byte begins: its character, if it is complete, and how many of the following
bytes belong to it. -/
def readAfter (a : UInt8) (r : List UInt8) : Option Char × Nat :=
  if a < 0x80 then (some (Char.ofNat a.toNat), 0)
  else if 0xC2 ≤ a ∧ a < 0xE0 then
    match r with
    | b :: _ => if isTail b then (some (joinTwo a b), 1) else (none, 0)
    | [] => (none, 0)
  else if 0xE0 ≤ a ∧ a < 0xF0 then
    match r with
    | b :: c :: _ =>
      if !isSecondOfThree a b then (none, 0)
      else if isTail c then (some (joinThree a b c), 2) else (none, 1)
    | [b] => (none, if isSecondOfThree a b then 1 else 0)
    | [] => (none, 0)
  else if 0xF0 ≤ a ∧ a < 0xF5 then
    match r with
    | b :: c :: d :: _ =>
      if !isSecondOfFour a b then (none, 0)
      else if !isTail c then (none, 1)
      else if isTail d then (some (joinFour a b c d), 3) else (none, 2)
    | [b, c] => (none, if !isSecondOfFour a b then 0 else if isTail c then 2 else 1)
    | [b] => (none, if isSecondOfFour a b then 1 else 0)
    | [] => (none, 0)
  else (none, 0)

/-- Decoding once the first `skip` bytes are accounted for. -/
def decodeAfter : Nat → List UInt8 → List (Option Char)
  | _, [] => []
  | skip + 1, _ :: r => decodeAfter skip r
  | 0, a :: r => (readAfter a r).1 :: decodeAfter (readAfter a r).2 r

/-- The characters of a byte sequence, `none` for each stretch that is not one. -/
def decode (bytes : List UInt8) : List (Option Char) := decodeAfter 0 bytes

/-- The text of a byte sequence, with U+FFFD for each ill-formed stretch. -/
def decodeLossy (bytes : List UInt8) : String :=
  String.ofList ((decode bytes).map (·.getD '\uFFFD'))

/-- The text of a byte sequence that is UTF-8 throughout. -/
def decode? (bytes : List UInt8) : Option String :=
  ((decode bytes).mapM id).map String.ofList

end StorageAccess.Utf8
