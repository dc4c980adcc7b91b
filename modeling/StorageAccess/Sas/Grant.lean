import StorageAccess.AccountKey
import StorageAccess.Action
import StorageAccess.Sas.Policy
import StorageAccess.Sas.Token
import StorageAccess.Signing.SharedKey

/-! Shared access as it is granted: to a whole account, or to one resource of it. A grant is checked,
laid out as fields, and signed. -/
namespace StorageAccess

/-- Access to some services and kinds of resources of an account. -/
structure AccountGrant where
  account : String
  key : AccountKey
  policy : Policy
  services : CodeSet Service := .full
  resourceTypes : CodeSet ResourceType := .full
  version : String := signingVersion

namespace AccountGrant

def validate (g : AccountGrant) : Except Error Unit := do
  if g.policy.start.isNone || g.policy.expiry.isNone then throw PolicyDefect.windowRequired.error
  g.policy.checkWindow
  if g.policy.identifier.isSome then throw PolicyDefect.identifierForbidden.error
  if g.policy.permissions.isEmpty then throw PolicyDefect.permissionsRequired.error
  if g.services.isEmpty then throw PolicyDefect.servicesRequired.error
  if g.resourceTypes.isEmpty then throw PolicyDefect.resourceTypesRequired.error

/-- The fields as they are laid out, empty ones included. -/
def fields (g : AccountGrant) (permissions : String) : List (String × String) :=
  [("sv", g.version), ("ss", g.services.text), ("srt", g.resourceTypes.text),
    ("sp", permissions), ("st", (g.policy.start.map Instant.iso8601).getD ""),
    ("se", (g.policy.expiry.map Instant.iso8601).getD ""), ("sip", g.policy.ipRange.getD ""),
    ("spr", (g.policy.protocol.map Protocol.text).getD "")]

/-- The fields without the signature. Empty ones are left out. -/
def unsigned (g : AccountGrant) : Except Error SasToken := do
  g.validate
  let permissions ← g.policy.permissions.inOrder "racwdlup"
  return (g.fields permissions).foldl (fun t f => t.push f.1 f.2) ⟨[]⟩

def stringToSign (g : AccountGrant) : Except Error String := do
  return (← g.unsigned).accountStringToSign g.account

/-- The signed token. What was signed is logged. -/
def token (g : AccountGrant) : Action SasToken := do
  let t ← Action.ofExcept g.unsigned
  let s := t.accountStringToSign g.account
  Action.debug ("account sas string to sign: " ++ Quoted.text s)
  return t.push "sig" (g.key.sign s)

end AccountGrant

structure KeyRange where
  startPartition : Option String := none
  startRow : Option String := none
  endPartition : Option String := none
  endRow : Option String := none
  deriving DecidableEq

structure ResponseHeaders where
  cacheControl : Option String := none
  contentDisposition : Option String := none
  contentEncoding : Option String := none
  contentLanguage : Option String := none
  contentType : Option String := none
  deriving DecidableEq

/-- Access to one resource. -/
structure ScopeGrant where
  account : String
  key : AccountKey
  scope : Scope
  policy : Policy
  keyRange : KeyRange := {}
  responseHeaders : ResponseHeaders := {}
  version : String := signingVersion

namespace ScopeGrant

/-- Without a stored policy, the grant itself says what is allowed and until when. -/
def checkSufficient (p : Policy) : Except Error Unit := do
  if p.identifier.isNone then
    if p.expiry.isNone then throw PolicyDefect.expiryRequiredAlone.error
    if p.permissions.isEmpty then throw PolicyDefect.permissionsRequiredAlone.error

def validate (g : ScopeGrant) : Except Error Unit := do
  g.policy.checkIdentifier
  g.policy.checkWindow
  checkSufficient g.policy
  if g.keyRange ≠ {} ∧ g.scope.service ≠ .table then throw PolicyDefect.keyRangeForbidden.error
  if g.responseHeaders ≠ {} ∧ g.scope.service ≠ .blob ∧ g.scope.service ≠ .file then
    throw PolicyDefect.responseHeadersForbidden.error
  discard (g.policy.permissions.inOrder g.scope.permissionOrder)

/-- The name of a table, which the token of a table repeats. -/
def tableName : Scope → String
  | .table table => table
  | _ => ""

/-- The fields as they are laid out, empty ones included. -/
def fields (g : ScopeGrant) (permissions : String) : List (String × String) :=
  [("sv", g.version), ("sr", g.scope.kindLetter?.getD ""), ("tn", tableName g.scope),
    ("sp", permissions), ("st", (g.policy.start.map Instant.iso8601).getD ""),
    ("se", (g.policy.expiry.map Instant.iso8601).getD ""), ("si", g.policy.identifier.getD ""),
    ("sip", g.policy.ipRange.getD ""), ("spr", (g.policy.protocol.map Protocol.text).getD ""),
    ("spk", g.keyRange.startPartition.getD ""), ("srk", g.keyRange.startRow.getD ""),
    ("epk", g.keyRange.endPartition.getD ""), ("erk", g.keyRange.endRow.getD ""),
    ("rscc", g.responseHeaders.cacheControl.getD ""),
    ("rscd", g.responseHeaders.contentDisposition.getD ""),
    ("rsce", g.responseHeaders.contentEncoding.getD ""),
    ("rscl", g.responseHeaders.contentLanguage.getD ""),
    ("rsct", g.responseHeaders.contentType.getD ""), ("api-version", g.version)]

/-- The fields without the signature. Empty ones are left out. -/
def unsigned (g : ScopeGrant) : Except Error SasToken := do
  g.validate
  let permissions ← g.policy.permissions.inOrder g.scope.permissionOrder
  return (g.fields permissions).foldl (fun t f => t.push f.1 f.2) ⟨[]⟩

def stringToSign (g : ScopeGrant) : Except Error String := do
  return (← g.unsigned).scopeStringToSign g.account g.scope

def token (g : ScopeGrant) : Action SasToken := do
  let t ← Action.ofExcept g.unsigned
  let s := t.scopeStringToSign g.account g.scope
  Action.debug ("service sas string to sign: " ++ Quoted.text s)
  return t.push "sig" (g.key.sign s)

end ScopeGrant

end StorageAccess
