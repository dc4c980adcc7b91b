import StorageAccess.Credentials.Credential
import StorageAccess.Sas.Grant

/-! Authorising requests. A shared key signs the headers or, when an expiry is asked for, adds a shared
access signature to the query; tokens are attached as they are. -/
namespace StorageAccess

structure Authorizer where
  scheme : SharedKeyScheme := .full
  /-- The time to sign at, if it is not the present. -/
  time : Option Instant := none

namespace AuthorizationDefect

def credentialMissing : Error := ⟨.credentialInvalid, "credential is required", none⟩

def bearerInQuery : Error :=
  ⟨.credentialInvalid, "bearer token can't be used in query string", none⟩

def expiryOutOfRange : Error := ⟨.signatureInput, "expires_in is out of range", none⟩

end AuthorizationDefect

namespace Authorizer

/-- The longest time that a point in time can be put off by: `2 ^ 63` milliseconds less one. -/
def longestExpiry : Nat := 9_223_372_036_854_775_807_000_000

/-- What a query signature allows: everything but processing messages. -/
def queryPermissions : CodeSet Permission := CodeSet.full.without ⟨(· == .process)⟩

def expiry (now : Instant) (expiresIn : Duration) : Action Instant :=
  if expiresIn.nanoseconds ≤ longestExpiry then Action.ofFault (now.add expiresIn)
  else Action.fail AuthorizationDefect.expiryOutOfRange

/-- The access that a query signature grants. -/
def queryGrant (account : String) (key : AccountKey) (start expiry : Instant) : AccountGrant :=
  { account, key, policy := { permissions := queryPermissions, start, expiry } }

/-- Adds the pairs of a fresh shared access signature to the query. -/
def signQuery (d : Draft) (account : String) (key : AccountKey) (now : Instant)
    (expiresIn : Duration) : Action Draft := do
  let expiry ← expiry now expiresIn
  let token ← (queryGrant account key now expiry).token
  return { d with query := d.query ++ token.pairs }

def dated (d : Draft) (now : Instant) : Except Error Draft := do
  return { d with headers := d.headers.insert .msDate (← HeaderValue.ofText now.httpDate) }

/-- Sets the authorization header, which must not be shown. -/
def authorizedBy (d : Draft) (text : String) : Except Error Draft := do
  let value ← HeaderValue.ofText text
  return { d with headers := d.headers.insert .authorization value.markSensitive }

/-- Dates a draft and signs it. -/
def signHeaders (a : Authorizer) (d : Draft) (account : String) (key : AccountKey) (now : Instant) :
    Action Draft := do
  let d ← Action.ofExcept (dated d now)
  let s ← a.scheme.loggedStringToSign d account
  Action.ofExcept (authorizedBy d (a.scheme.word ++ " " ++ account ++ ":" ++ key.sign s))

/-- Authorises a draft. Also says how many pairs at the front of the query are not encoded yet. -/
def authorizeDraft (a : Authorizer) (now : Instant) (d : Draft) (expiresIn : Option Duration) :
    Credential → Action (Draft × Nat)
  | .sasToken token => do
    Action.debug "signing request with pre-issued sas token"
    return (d.pushEncoded token, d.query.length)
  | .bearer token _ => do
    let d ← Action.ofExcept (dated d now)
    let d ← Action.ofExcept (authorizedBy d ("Bearer " ++ token))
    return (d, d.query.length)
  | .sharedKey account key => do
    let d ← match expiresIn with
      | some expiresIn => signQuery d account key now expiresIn
      | none => a.signHeaders d account key now
    return (d, d.query.length)

def encodePair (pair : String × String) : String × String :=
  (Percent.encode pair.1, Percent.encode pair.2)

def encodeLeading (d : Draft) (count : Nat) : Draft :=
  { d with query := (d.query.take count).map encodePair ++ d.query.drop count }

/-- The headers with the first of their dates as the only one, or with none. -/
def restoredDate (h : Headers) : Headers :=
  match h.get? .msDate with
  | some date => h.insert .msDate date
  | none => h.remove .msDate

/-- The request after an attempt to authorise it. -/
def finish (head : RequestHead) (drafted : Action (Draft × Nat)) : RequestHead × Action Unit :=
  match drafted.outcome with
  | .ok (d, count) =>
    let (head, written) := (encodeLeading d count).applyTo head
    (head, drafted >>= fun _ => Action.ofExcept written)
  | .error _ =>
    ({ head with headers := restoredDate head.headers }, drafted >>= fun _ => pure ())

/-- Bearer tokens cannot be put into a query. -/
def isBearerInQuery (c : Credential) (expiresIn : Option Duration) : Bool :=
  match c with
  | .bearer _ _ => expiresIn.isSome
  | _ => false

/-- Authorises a request with a credential. A time to expire asks for a signature in the query. -/
def authorize (a : Authorizer) (now : Instant) (head : RequestHead) (credential : Option Credential)
    (expiresIn : Option Duration) : RequestHead × Action Unit :=
  match credential with
  | none => (head, Action.fail AuthorizationDefect.credentialMissing)
  | some c =>
    if isBearerInQuery c expiresIn then (head, Action.fail AuthorizationDefect.bearerInQuery)
    else
      match Draft.ofHead head with
      | .error e => (head, Action.fail e)
      | .ok d => finish head (a.authorizeDraft (a.time.getD now) d expiresIn c)

end Authorizer

end StorageAccess
