import StorageAccess.Web.PathAndQuery

/-! Addresses of requests. -/
namespace StorageAccess

inductive Uri
  /-- A complete address. -/
  | absolute (scheme : Scheme) (authority : Authority) (target : PathAndQuery)
  /-- A server alone. -/
  | server (authority : Authority)
  /-- A place on a server that is known otherwise. -/
  | place (target : PathAndQuery)
  deriving DecidableEq

namespace Uri

def scheme? : Uri → Option Scheme
  | .absolute scheme _ _ => some scheme
  | _ => none

def authority? : Uri → Option Authority
  | .absolute _ authority _ => some authority
  | .server authority => some authority
  | .place _ => none

def target? : Uri → Option PathAndQuery
  | .absolute _ _ target => some target
  | .server _ => none
  | .place target => some target

/-- An address from its parts. A scheme needs a server and a place on it, and these two together need
a scheme. -/
def ofParts (scheme : Option Scheme) (authority : Option Authority) (target : Option PathAndQuery) :
    Except UriDefect Uri :=
  match scheme, authority, target with
  | some s, some a, some t => .ok (.absolute s a t)
  | some _, none, _ => .error .authorityMissing
  | some _, some _, none => .error .pathMissing
  | none, some _, some _ => .error .schemeMissing
  | none, some a, none => .ok (.server a)
  | none, none, some t => .ok (.place t)
  | none, none, none => .ok (.place .slash)

def text : Uri → String
  | .absolute scheme authority target => scheme.text ++ "://" ++ authority.text ++ target.text
  | .server authority => authority.text
  | .place target => target.text

/-- The characters up to the first colon, if two slashes follow it and the part before it is made of
scheme characters, and what comes after the slashes. -/
def splitScheme? (cs : List Char) : Option (List Char × List Char) :=
  match cs.dropWhile isSchemeChar with
  | ':' :: '/' :: '/' :: rest => some (cs.takeWhile isSchemeChar, rest)
  | _ => none

/-- A scheme and what follows its slashes, if there is a scheme. -/
def leadingScheme (cs : List Char) : Except UriDefect (Option Scheme × List Char) :=
  match splitScheme? cs with
  | some (name, rest) =>
    let small := String.ofList (name.map Char.toLower)
    if small = "http" then .ok (some .http, rest)
    else if small = "https" then .ok (some .https, rest)
    else if cs.length ≤ 3 then .ok (none, cs)
    else if name.length > 64 then .error .schemeTooLong
    else .ok (some (.other (String.ofList name)), rest)
  | none => .ok (none, cs)

/-- A server at the front of a text, and what follows it. There may be no server, but there is some
text. -/
def leadingAuthority (cs : List Char) : Except UriDefect (Option Authority × List Char) :=
  let name := cs.takeWhile (!endsAuthority ·)
  if cs = [] then .error .empty
  else
    match h : Authority.check name with
    | .error e => .error e
    | .ok () =>
      if hn : name = [] then .ok (none, cs)
      else
        .ok (some ⟨String.ofList name, by simpa [← String.toList_inj] using hn, by simpa using h⟩,
          cs.dropWhile (!endsAuthority ·))

/-- An address with a server in it. -/
def ofServerChars (cs : List Char) : Except UriDefect Uri := do
  let (scheme, rest) ← leadingScheme cs
  let (authority, rest) ← leadingAuthority rest
  match scheme, authority with
  | some scheme, some authority => return .absolute scheme authority (← PathAndQuery.ofChars rest)
  | some _, none => throw .badFormat
  | none, some authority => if rest.isEmpty then return .server authority else throw .badFormat
  | none, none => throw .badFormat

/-- The address that a text writes. What follows a number sign is not part of it. -/
def ofText (s : String) : Except UriDefect Uri :=
  if s.utf8ByteSize > 65534 then .error .tooLong
  else if s = "" then .error .empty
  else if s = "*" then .ok (.place .star)
  else if s.toList.head? = some '/' then (PathAndQuery.ofText s).map .place
  else if s.length = 1 then (Authority.ofText s).map .server
  else ofServerChars s.toList

end Uri

end StorageAccess
