import StorageAccess.Bytes.Base64
import StorageAccess.Bytes.Hmac
import StorageAccess.Error
import StorageAccess.Text.Redacted

/-! Keys of storage accounts. A key is read once, when it is built, so that a malformed one shows at
once and not with the first request. -/
namespace StorageAccess

/-- The bytes that a text encodes. All that is ever decoded is account keys. -/
def decodeKey (s : String) : Except Error (List UInt8) :=
  match Base64.decode? s with
  | some bytes => .ok bytes
  | none => .error ⟨.malformedKey, "base64 decode failed", none⟩

theorem decodeKey_eq_ok {s : String} {bytes : List UInt8} :
    decodeKey s = .ok bytes ↔ Base64.decode? s = some bytes := by
  unfold decodeKey
  cases Base64.decode? s <;> simp

structure AccountKey where
  /-- The key as it was given. -/
  encoded : String
  bytes : List UInt8
  decodes : Base64.decode? encoded = some bytes

namespace AccountKey

instance : DecidableEq AccountKey := fun a b =>
  decidable_of_iff (a.encoded = b.encoded ∧ a.bytes = b.bytes) (by cases a; cases b; simp)

def ofText (s : String) : Except Error AccountKey :=
  match h : decodeKey s with
  | .ok bytes => .ok ⟨s, bytes, decodeKey_eq_ok.mp h⟩
  | .error e => .error e

def sign (key : AccountKey) (s : String) : String :=
  Base64.encode (Hmac.tag key.bytes (Utf8.encode s))

/-- The key without what makes it one. -/
def describe (key : AccountKey) : String := "AccountKey(" ++ redacted key.encoded ++ ")"

end AccountKey

end StorageAccess
