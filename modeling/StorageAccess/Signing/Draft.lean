import StorageAccess.Text.Lowercase
import StorageAccess.Web.Form
import StorageAccess.Web.RequestHead

/-! Requests taken apart for signing. The query is held as decoded pairs, and the headers are with the
draft until it is put back into the request. -/
namespace StorageAccess

structure Draft where
  method : Method
  scheme : Scheme
  authority : Authority
  path : String
  query : List (String × String)
  headers : Headers
  deriving DecidableEq

namespace Draft

/-- Text order by code points, which is also the order of the UTF-8 bytes. -/
def textLe (a b : String) : Bool := decide (a ≤ b)

/-- Pairs by their first texts, then by their second. -/
def pairLe (a b : String × String) : Bool :=
  if a.1 = b.1 then textLe a.2 b.2 else textLe a.1 b.1

/-- Takes a request apart. Plain HTTP is meant where the address has no scheme. -/
def ofHead (head : RequestHead) : Except Error Draft :=
  let target := head.uri.target?.getD .slash
  match head.uri.authority? with
  | none => .error ⟨.signatureInput, "request without authority is invalid for signing", none⟩
  | some authority =>
    .ok
      { method := head.method
        scheme := head.uri.scheme?.getD .http
        authority := authority
        path := target.shownPath
        query := (target.query.map Form.decode).getD []
        headers := head.headers }

/-- A pair as it is written into an address: without an equals sign if the value is empty. -/
def writePair (pair : String × String) : String :=
  if pair.2 = "" then pair.1 else pair.1 ++ "=" ++ pair.2

/-- The path and the pairs as they are, in one text. -/
def targetText (d : Draft) : String :=
  if d.query.isEmpty then d.path else d.path ++ "?" ++ joinWith "&" (d.query.map writePair)

def uri (d : Draft) : Except Error Uri :=
  match PathAndQuery.ofText d.targetText with
  | .error e => .error e.error
  | .ok target =>
    match Uri.ofParts (some d.scheme) (some d.authority) (some target) with
    | .error e => .error e.error
    | .ok uri => .ok uri

def restoreTo (d : Draft) (head : RequestHead) : RequestHead := { head with headers := d.headers }

/-- Puts everything back. If the address cannot be written, only the headers are put back. -/
def applyTo (d : Draft) (head : RequestHead) : RequestHead × Except Error Unit :=
  match d.uri with
  | .ok uri => (⟨d.method, uri, d.headers⟩, .ok ())
  | .error e => (d.restoreTo head, .error e)

/-- Bytes in the names and values of the pairs. -/
def querySize (d : Draft) : Nat :=
  (d.query.flatMap fun pair => Utf8.encode pair.1 ++ Utf8.encode pair.2).length

def pushPair (d : Draft) (key value : String) : Draft :=
  { d with query := d.query ++ [(key, value)] }

/-- Adds a query that is already in its written form. -/
def pushEncoded (d : Draft) (query : String) : Draft := d.pushPair query ""

/-- The value of the first pair with the given name, in whatever case of A to Z. -/
def queryValue? (d : Draft) (key : String) : Option String :=
  (d.query.find? fun pair => Lowercase.sameBasicLatin pair.1 key).map (·.2)

/-- The different names in small letters, sorted. -/
def groupNames (query : List (String × String)) : List String :=
  ((query.map fun pair => lowercase pair.1).eraseDups).mergeSort textLe

/-- The values of one name in small letters, sorted. -/
def groupValues (query : List (String × String)) (name : String) : List String :=
  ((query.filter fun pair => lowercase pair.1 == name).map (·.2)).mergeSort textLe

/-- The pairs by name, the values of one name with commas between them. -/
def queryGroups (d : Draft) : List (String × String) :=
  (groupNames d.query).map fun name => (name, joinWith "," (groupValues d.query name))

/-- The first value of a header, or an empty text. -/
def headerText (d : Draft) (name : HeaderName) : Except Error String :=
  match d.headers.get? name with
  | some value => value.text
  | none => .ok ""

/-- All values of a header with commas between them. -/
def joinedHeader (d : Draft) (name : HeaderName) : Except Error String := do
  let texts ← (d.headers.values name).mapM HeaderValue.text
  return joinWith "," texts

/-- The headers whose names begin in the given way, by name. -/
def headersWithPrefix (d : Draft) (start : String) : Except Error (List (String × String)) := do
  let names := d.headers.names.filter fun name => start.toList.isPrefixOf name.text.toList
  let fields ← names.mapM fun name => do return (name.text, ← d.joinedHeader name)
  return fields.mergeSort pairLe

/-- Sorted pairs in one text: `separator` inside each, `terminator` between them. -/
def fieldLines (fields : List (String × String)) (separator terminator : String) : String :=
  joinWith terminator ((fields.mergeSort pairLe).map fun f => f.1 ++ separator ++ f.2)

end Draft

end StorageAccess
