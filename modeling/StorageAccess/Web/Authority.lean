import StorageAccess.Error

/-! The schemes and authorities of addresses. -/
namespace StorageAccess

inductive UriDefect
  | badCharacter
  | badAuthority
  | badFormat
  | tooLong
  | empty
  | schemeTooLong
  | noLeadingSlash
  | schemeMissing
  | authorityMissing
  | pathMissing
  deriving DecidableEq

namespace UriDefect

def text : UriDefect → String
  | .badCharacter => "invalid uri character"
  | .badAuthority => "invalid authority"
  | .badFormat => "invalid format"
  | .tooLong => "uri too long"
  | .empty => "empty string"
  | .schemeTooLong => "scheme too long"
  | .noLeadingSlash => "path does not start with slash"
  | .schemeMissing => "scheme missing"
  | .authorityMissing => "authority missing"
  | .pathMissing => "path missing"

def error (d : UriDefect) : Error := .caused .signatureInput d.text

end UriDefect

/-- Letters and digits of ASCII and four marks. -/
def isSchemeChar (c : Char) : Bool :=
  c.isAlphanum || c == '+' || c == '-' || c == '.' || c == '~'

inductive Scheme
  | http
  | https
  | other (text : String)
  deriving DecidableEq

namespace Scheme

def text : Scheme → String
  | .http => "http"
  | .https => "https"
  | .other s => s

/-- A scheme by its exact name. -/
def ofText (s : String) : Except UriDefect Scheme :=
  if s = "http" then .ok .http
  else if s = "https" then .ok .https
  else if s.length > 64 then .error .schemeTooLong
  else if s.toList.all isSchemeChar then .ok (.other s)
  else .error .badCharacter

end Scheme

/-- The characters that authorities are made of, those with a meaning there included. -/
def isAuthorityChar (c : Char) : Bool :=
  c.isAlphanum || c == '!' || c == '$' || c == '&' || c == '\x27' || c == '(' || c == ')' || c == '*'
    || c == '+' || c == ',' || c == '-' || c == '.' || c == ':' || c == ';' || c == '=' || c == '@'
    || c == '[' || c == ']' || c == '_' || c == '~'

/-- A slash, a question mark or a number sign ends an authority. -/
def endsAuthority (c : Char) : Bool := c == '/' || c == '?' || c == '#'

namespace Authority

/-- What is known of an authority after some of its characters. -/
structure Scan where
  /-- Colons since the last at sign or bracket. -/
  colons : Nat := 0
  opened : Bool := false
  closed : Bool := false
  /-- Whether a percent sign stands where a host name would. -/
  percent : Bool := false
  /-- Whether the last character is an at sign. -/
  afterAt : Bool := false

namespace Scan

def next (s : Scan) (c : Char) : Except UriDefect Scan :=
  let s := { s with afterAt := c == '@' }
  if c == ':' then
    if s.colons ≥ 8 then .error .badAuthority else .ok { s with colons := s.colons + 1 }
  else if c == '[' then
    if s.percent || s.opened then .error .badAuthority else .ok { s with opened := true }
  else if c == ']' then
    if !s.opened || s.closed then .error .badAuthority
    else .ok { s with closed := true, colons := 0, percent := false }
  else if c == '@' then .ok { s with colons := 0, percent := false }
  else if c == '%' then .ok { s with percent := true }
  else if isAuthorityChar c then .ok s
  else .error .badCharacter

/-- Brackets come in a pair, at most one colon follows the host name, and a host name follows an at
sign. -/
def finish (s : Scan) : Except UriDefect Unit :=
  if s.opened != s.closed || s.colons > 1 || s.afterAt || s.percent then .error .badAuthority
  else .ok ()

end Scan

def check (cs : List Char) : Except UriDefect Unit := do (← cs.foldlM Scan.next {}).finish

end Authority

/-- A server, perhaps with a user before it and a number after it. -/
structure Authority where
  text : String
  valid : text ≠ "" ∧ Authority.check text.toList = .ok ()

namespace Authority

instance : DecidableEq Authority := fun a b =>
  decidable_of_iff (a.text = b.text) (by cases a; cases b; simp)

def ofText (s : String) : Except UriDefect Authority :=
  if hs : s = "" then .error .empty
  else
    match h : check (s.toList.takeWhile (!endsAuthority ·)) with
    | .error e => .error e
    | .ok () =>
      if hw : s.toList.takeWhile (!endsAuthority ·) = s.toList then .ok ⟨s, hs, hw ▸ h⟩
      else .error .badCharacter

end Authority

end StorageAccess
