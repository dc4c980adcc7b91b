import StorageAccess.Sas.Grantable
import StorageAccess.Time.Text

/-! What a shared access signature allows, to whom and for how long. A policy may leave all of this to
one that is stored with the resource and only name that one. -/
namespace StorageAccess

inductive Protocol
  | https
  | httpsOrHttp
  deriving DecidableEq

inductive PolicyDefect
  | unknownProtocol (text : String)
  | windowReversed (start expiry : Instant)
  | emptyIdentifier
  | longIdentifier
  | duplicateIdentifier (id : String)
  | tooManyIdentifiers
  | foreignPermission (letter : Char) (order : String)
  | windowRequired
  | identifierForbidden
  | permissionsRequired
  | servicesRequired
  | resourceTypesRequired
  | expiryRequiredAlone
  | permissionsRequiredAlone
  | keyRangeForbidden
  | responseHeadersForbidden

namespace PolicyDefect

def text : PolicyDefect → String
  | .unknownProtocol s => "unknown sas protocol: " ++ s
  | .windowReversed start expiry =>
    "sas start " ++ start.text ++ " is after expiry " ++ expiry.text
  | .emptyIdentifier => "signed identifier must not be empty"
  | .longIdentifier => "signed identifier longer than 64 characters"
  | .duplicateIdentifier id => "duplicate signed identifier " ++ Quoted.text id
  | .tooManyIdentifiers => "an acl holds at most 5 signed identifiers"
  | .foreignPermission letter order =>
    "permission " ++ Quoted.char letter ++ " is not valid for a scope accepting "
      ++ Quoted.text order
  | .windowRequired => "account sas requires both start and expiry"
  | .identifierForbidden => "account sas can't reference a signed identifier"
  | .permissionsRequired => "account sas requires permissions"
  | .servicesRequired => "account sas requires services"
  | .resourceTypesRequired => "account sas requires resource types"
  | .expiryRequiredAlone => "service sas without signed identifier requires expiry"
  | .permissionsRequiredAlone => "service sas without signed identifier requires permissions"
  | .keyRangeForbidden => "key range is only valid for table sas"
  | .responseHeadersForbidden => "response headers are only valid for blob and file sas"

def error (d : PolicyDefect) : Error := ⟨.signatureInput, d.text, none⟩

end PolicyDefect

namespace Protocol

def text : Protocol → String
  | .https => "https"
  | .httpsOrHttp => "https,http"

def ofText (s : String) : Except Error Protocol :=
  if s = "https" then .ok .https
  else if s = "https,http" ∨ s = "http,https" then .ok .httpsOrHttp
  else .error (PolicyDefect.unknownProtocol s).error

end Protocol

structure Policy where
  permissions : CodeSet Permission := .empty
  /-- The start of the window; none for no lower bound. -/
  start : Option Instant := none
  expiry : Option Instant := none
  /-- One network address, or two with a hyphen between them. -/
  ipRange : Option String := none
  protocol : Option Protocol := none
  /-- The name of a stored policy. -/
  identifier : Option String := none

namespace Policy

/-- The window does not end before it starts. -/
def checkWindow (p : Policy) : Except Error Unit :=
  match p.start, p.expiry with
  | some start, some expiry =>
    if expiry.before start then .error (PolicyDefect.windowReversed start expiry).error else .ok ()
  | _, _ => .ok ()

theorem checkWindow_eq_ok_iff {p : Policy} : p.checkWindow = .ok () ↔
    ∀ start expiry, p.start = some start → p.expiry = some expiry → start ≤ expiry := by
  unfold checkWindow
  split
  · rename_i start expiry hs he
    simp [hs, he, ← Instant.before_eq_false_iff]
  · rename_i hnone
    simp only [true_iff]
    exact fun start expiry hs he => absurd he (hnone start expiry hs)

/-- An identifier has between 1 and 64 characters. -/
def checkIdentifierText (id : String) : Except Error Unit :=
  if id = "" then .error PolicyDefect.emptyIdentifier.error
  else if id.toList.length > 64 then .error PolicyDefect.longIdentifier.error
  else .ok ()

def checkIdentifier (p : Policy) : Except Error Unit :=
  match p.identifier with
  | some id => checkIdentifierText id
  | none => .ok ()

/-- Checks identifiers in order, after those already seen. -/
def checkIdentifiersAfter (seen : List String) : List String → Except Error Unit
  | [] => .ok ()
  | id :: rest => do
    checkIdentifierText id
    if seen.contains id then throw (PolicyDefect.duplicateIdentifier id).error
    if seen.length = 5 then throw PolicyDefect.tooManyIdentifiers.error
    checkIdentifiersAfter (seen ++ [id]) rest

/-- The identifiers of the policies stored with one resource: at most five, all different. -/
def checkIdentifiers (ids : List String) : Except Error Unit := checkIdentifiersAfter [] ids

end Policy

namespace CodeSet

/-- The letters of permissions in the order of a scope, which has to know them all. -/
def inOrder (s : CodeSet Permission) (order : String) : Except Error String :=
  match s.toList.find? fun p => !order.toList.contains (Coded.letter p) with
  | some p => .error (PolicyDefect.foreignPermission (Coded.letter p) order).error
  | none => .ok (String.ofList (order.toList.filter s.hasLetter))

end CodeSet

end StorageAccess
