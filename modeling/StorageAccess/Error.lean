/-! Errors that callers see: what kind of thing went wrong, in what words, and what it came from. -/
namespace StorageAccess

inductive ErrorKind
  /-- The account key is not in Base64. -/
  | malformedKey
  /-- The request or the policy is incomplete or contradicts itself. -/
  | signatureInput
  /-- There is a credential, but it cannot be used this way. -/
  | credentialInvalid
  | credentialExpired
  /-- A setting is missing or has a value it cannot have. -/
  | configInvalid
  | unexpected
  deriving DecidableEq

namespace ErrorKind

def text : ErrorKind → String
  | .malformedKey => "malformed account key"
  | .signatureInput => "invalid signature input"
  | .credentialInvalid => "invalid credentials"
  | .credentialExpired => "expired credentials"
  | .configInvalid => "invalid configuration"
  | .unexpected => "unexpected error"

end ErrorKind

structure Error where
  kind : ErrorKind
  message : String
  /-- The text of what caused this error, if that is known. -/
  source : Option String := none
  deriving DecidableEq

namespace Error

def withSource (e : Error) (source : String) : Error := ⟨e.kind, e.message, some source⟩

/-- An error that says what its cause says. -/
def caused (kind : ErrorKind) (cause : String) : Error := ⟨kind, cause, some cause⟩

def text (e : Error) : String := e.kind.text ++ ": " ++ e.message

/-- Whether another credential might help. -/
def isCredentialError (e : Error) : Bool :=
  e.kind == .malformedKey || e.kind == .credentialInvalid || e.kind == .credentialExpired

/-- The error of a text that could not be put together. -/
def unwritable : Error := caused .unexpected "an error occurred when formatting an argument"

end Error

end StorageAccess
