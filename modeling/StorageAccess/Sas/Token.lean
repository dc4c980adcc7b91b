import StorageAccess.Sas.Scope
import StorageAccess.Text.Quoted
import StorageAccess.Text.Redacted
import StorageAccess.Web.Form

/-! Shared access signatures as the ordered fields that they are sent as, and the texts that their
signatures cover. -/
namespace StorageAccess

/-- Fields with their values unencoded. -/
structure SasToken where
  pairs : List (String × String)
  deriving DecidableEq

namespace SasToken

def withoutLeadingMarks (s : String) : String := String.ofList (s.toList.dropWhile (· == '?'))

/-- The token that a query holds. Question marks before it do not count. -/
def ofText (query : String) : Except Error SasToken :=
  let query := withoutLeadingMarks query
  if query = "" then .error ⟨.signatureInput, "empty sas token", none⟩
  else .ok ⟨Form.decode query⟩

def get? (t : SasToken) (name : String) : Option String :=
  (t.pairs.find? (·.1 == name)).map (·.2)

/-- The first value of a field, or an empty text. -/
def field (t : SasToken) (name : String) : String := (t.get? name).getD ""

def signature? (t : SasToken) : Option String := t.get? "sig"

def text (t : SasToken) : String := Form.encode t.pairs

/-- Adds a field at the end, unless it is empty. -/
def push (t : SasToken) (name value : String) : SasToken :=
  if value = "" then t else ⟨t.pairs ++ [(name, value)]⟩

def describePair (pair : String × String) : String :=
  Quoted.text pair.1 ++ ": "
    ++ if pair.1 = "sig" then redacted pair.2 else Quoted.text pair.2

/-- The fields in braces, with the signature redacted. -/
def describe (t : SasToken) : String :=
  "\x7b" ++ joinWith ", " (t.pairs.map describePair) ++ "\x7d"

/-- The names of the fields that change response headers. -/
def responseHeaderNames : List String := ["rscc", "rscd", "rsce", "rscl", "rsct"]

/-- The names of the fields that limit the keys of a table. -/
def keyRangeNames : List String := ["spk", "srk", "epk", "erk"]

/-- What the signature of access to an account covers. Every line has an end. -/
def accountStringToSign (t : SasToken) (account : String) : String :=
  joinWith "\n"
    (lowercase account :: (["sp", "ss", "srt", "st", "se", "sip", "spr", "sv"].map t.field ++ [""]))

/-- The lines that only one service signs. The empty one stands for the time of a snapshot. -/
def serviceLines (t : SasToken) : Service → List String
  | .blob => t.field "sr" :: "" :: responseHeaderNames.map t.field
  | .file => responseHeaderNames.map t.field
  | .queue => []
  | .table => keyRangeNames.map t.field

/-- What the signature of access to a resource covers. -/
def scopeStringToSign (t : SasToken) (account : String) (scope : Scope) : String :=
  joinWith "\n"
    ([t.field "sp", t.field "st", t.field "se", scope.canonicalPath account, t.field "si",
      t.field "sip", t.field "spr", t.field "sv"] ++ t.serviceLines scope.service)

end SasToken

end StorageAccess
