import StorageAccess.Action
import StorageAccess.Signing.Draft
import StorageAccess.Text.Quoted

/-! What a signature under an account key covers. The three schemes cover different parts of a request,
each in a text of its own shape. -/
namespace StorageAccess

inductive SharedKeyScheme
  /-- For blobs, queues and files. -/
  | full
  /-- For the same services, covering less. -/
  | lite
  /-- For tables. -/
  | table
  deriving DecidableEq

/-- The version of the signing rules that everything here follows. -/
def signingVersion : String := "2018-11-09"

namespace HeaderName

def msDate : HeaderName := ⟨"x-ms-date", by decide +kernel⟩
def msVersion : HeaderName := ⟨"x-ms-version", by decide +kernel⟩
def authorization : HeaderName := ⟨"authorization", by decide +kernel⟩
def contentEncoding : HeaderName := ⟨"content-encoding", by decide +kernel⟩
def contentLanguage : HeaderName := ⟨"content-language", by decide +kernel⟩
def contentLength : HeaderName := ⟨"content-length", by decide +kernel⟩
def contentMd5 : HeaderName := ⟨"content-md5", by decide +kernel⟩
def contentType : HeaderName := ⟨"content-type", by decide +kernel⟩
def date : HeaderName := ⟨"date", by decide +kernel⟩
def ifModifiedSince : HeaderName := ⟨"if-modified-since", by decide +kernel⟩
def ifMatch : HeaderName := ⟨"if-match", by decide +kernel⟩
def ifNoneMatch : HeaderName := ⟨"if-none-match", by decide +kernel⟩
def ifUnmodifiedSince : HeaderName := ⟨"if-unmodified-since", by decide +kernel⟩
def range : HeaderName := ⟨"range", by decide +kernel⟩

end HeaderName

namespace SharedKeyScheme

/-- The word in front of the account in the authorization header. -/
def word : SharedKeyScheme → String
  | .full => "SharedKey"
  | .lite => "SharedKeyLite"
  | .table => "SharedKey"

/-- The length of the content, where an explicit zero is left out since the rules of 2015. -/
def contentLengthLine (d : Draft) : Except Error String := do
  let length ← d.headerText .contentLength
  if length ≠ "0" then return length
  let version ← d.headerText .msVersion
  let version := if version = "" then signingVersion else version
  if "2015-02-21" ≤ version then return "" else return length

/-- A line for each service header, with its end. -/
def serviceHeaders (d : Draft) : Except Error String := do
  let fields ← d.headersWithPrefix "x-ms-"
  if fields.isEmpty then return "" else return Draft.fieldLines fields ":" "\n" ++ "\n"

def resourcePath (d : Draft) (account : String) : String := "/" ++ lowercase account ++ d.path

/-- The account and the path, and a line for each name in the query. -/
def fullResource (d : Draft) (account : String) : String :=
  resourcePath d account
    ++ joinWith "" (d.queryGroups.map fun group => "\n" ++ group.1 ++ ":" ++ group.2)

/-- The account and the path, and of the query only which component is meant. -/
def componentResource (d : Draft) (account : String) : String :=
  match d.queryValue? "comp" with
  | some component => resourcePath d account ++ "?comp=" ++ component
  | none => resourcePath d account

def fullText (d : Draft) (account : String) : Except Error String := do
  let encoding ← d.headerText .contentEncoding
  let language ← d.headerText .contentLanguage
  let length ← contentLengthLine d
  let md5 ← d.headerText .contentMd5
  let type ← d.headerText .contentType
  let date ← d.headerText .date
  let modifiedSince ← d.headerText .ifModifiedSince
  let isMatch ← d.headerText .ifMatch
  let noneMatch ← d.headerText .ifNoneMatch
  let unmodifiedSince ← d.headerText .ifUnmodifiedSince
  let range ← d.headerText .range
  let headers ← serviceHeaders d
  return joinWith "\n"
    [d.method.text, encoding, language, length, md5, type, date, modifiedSince, isMatch, noneMatch,
      unmodifiedSince, range, headers ++ fullResource d account]

def liteText (d : Draft) (account : String) : Except Error String := do
  let md5 ← d.headerText .contentMd5
  let type ← d.headerText .contentType
  let date ← d.headerText .date
  let headers ← serviceHeaders d
  return joinWith "\n" [d.method.text, md5, type, date, headers ++ componentResource d account]

/-- The service's own date header, or the general one. -/
def tableDate (d : Draft) : Except Error String := do
  let date ← d.headerText .msDate
  if date = "" then d.headerText .date else return date

def tableText (d : Draft) (account : String) : Except Error String := do
  let date ← tableDate d
  let md5 ← d.headerText .contentMd5
  let type ← d.headerText .contentType
  return joinWith "\n" [d.method.text, md5, type, date, componentResource d account]

/-- The text that a signature of a draft covers. -/
def stringToSign (scheme : SharedKeyScheme) (d : Draft) (account : String) : Except Error String :=
  match scheme with
  | .full => fullText d account
  | .lite => liteText d account
  | .table => tableText d account

def loggedStringToSign (scheme : SharedKeyScheme) (d : Draft) (account : String) :
    Action String := do
  let s ← Action.ofExcept (scheme.stringToSign d account)
  Action.debug ("string to sign: " ++ Quoted.text s)
  return s

end SharedKeyScheme

end StorageAccess
