/-! What goes wrong with single attempts, and whether another one may help. -/
namespace StorageAccess

inductive Failure
  /-- No answer came in time. -/
  | timeout
  | connection
  | status (code : UInt16)
  deriving DecidableEq

namespace Failure

/-- Another attempt may help after failures on the way, after 408 and 429, and after statuses from 500
to 599 but for 501 and 505. -/
def isTransient : Failure → Bool
  | .timeout => true
  | .connection => true
  | .status code =>
    code == 408 || code == 429 || (500 ≤ code && code ≤ 599 && code != 501 && code != 505)

def status? : Failure → Option UInt16
  | .status code => some code
  | _ => none

def text : Failure → String
  | .timeout => "timeout"
  | .connection => "connection failure"
  | .status code => "status " ++ toString code.toNat

def describe : Failure → String
  | .timeout => "Timeout"
  | .connection => "Connection"
  | .status code => "Status(" ++ toString code.toNat ++ ")"

def className (f : Failure) : String := if f.isTransient then "Transient" else "NonRetryable"

end Failure

/-- Errors that stem from a failure. -/
class Classified (ε : Type) where
  failure : ε → Failure

instance : Classified Failure := ⟨id⟩

/-- Which copy of the data an attempt goes to. -/
inductive Replica
  | primary
  /-- The copy that can only be read. -/
  | secondary
  deriving DecidableEq

namespace Replica

def other : Replica → Replica
  | .primary => .secondary
  | .secondary => .primary

def text : Replica → String
  | .primary => "primary"
  | .secondary => "secondary"

end Replica

/-- Whether it is the answer 404 of the secondary replica. -/
def Failure.isNotFoundOn (f : Failure) (replica : Replica) : Bool :=
  decide (f = .status 404 ∧ replica = .secondary)

end StorageAccess
