import StorageAccess.Bytes.Sha256

/-! Keyed message authentication over SHA-256. -/
namespace StorageAccess.Hmac

/-- A key as one block: digested if it is longer, filled up with zeros if it is shorter. -/
def blockKey (key : List UInt8) : List UInt8 :=
  let short := if key.length > 64 then Sha256.digest key else key
  short ++ List.replicate (64 - short.length) 0

/-- The 32-byte tag of a message under a key. -/
def tag (key message : List UInt8) : List UInt8 :=
  let block := blockKey key
  Sha256.digest (block.map (· ^^^ 0x5c) ++ Sha256.digest (block.map (· ^^^ 0x36) ++ message))

end StorageAccess.Hmac
