import StorageAccess.Action
import StorageAccess.Duration
import StorageAccess.Retry.Failure

/-! Operations that may take several attempts, and where they stand. How much time has passed is told by
the caller. -/
namespace StorageAccess

inductive OperationState
  | notStarted
  | attempting
  | succeeded
  | retrying
  /-- Out of attempts or out of time. -/
  | exhausted
  /-- The last failure stays, however often one tries. -/
  | nonRetryable
  deriving DecidableEq

namespace OperationState

def name : OperationState → String
  | .notStarted => "NotStarted"
  | .attempting => "Attempting"
  | .succeeded => "Succeeded"
  | .retrying => "Retrying"
  | .exhausted => "Exhausted"
  | .nonRetryable => "NonRetryable"

def isTerminal : OperationState → Bool
  | .succeeded => true
  | .exhausted => true
  | .nonRetryable => true
  | _ => false

end OperationState

structure Operation where
  /-- Attempts begun so far. -/
  attempts : UInt32 := 0
  state : OperationState := .notStarted
  lastFailure : Option Failure := none
  /-- Time since the first attempt, as last told. -/
  elapsed : Duration := .zero
  replica : Replica := .primary
  readOnly : Bool
  /-- Whether the secondary replica has answered 404. -/
  secondaryNotFound : Bool := false
  deriving DecidableEq

namespace Operation

def fresh (readOnly : Bool) : Operation := { readOnly }

/-- The error of a step that does not fit the state. -/
def misuse (action : String) (state : OperationState) : Error :=
  ⟨.unexpected, "can't " ++ action ++ " while " ++ state.name, none⟩

def startAttempt (op : Operation) (replica : Replica) : Operation × Except Halt Unit :=
  if op.state = .notStarted ∨ op.state = .retrying then
    if op.attempts.toNat + 1 < 4_294_967_296 then
      ({ op with attempts := op.attempts + 1, replica, state := .attempting }, .ok ())
    else (op, .error (.fault .attemptOverflow))
  else (op, .error (.error (misuse "start an attempt" op.state)))

/-- Ends the attempt that is under way, with success. -/
def recordSuccess (op : Operation) (elapsed : Duration) : Operation × Except Halt Unit :=
  if op.state = .attempting then ({ op with elapsed, state := .succeeded }, .ok ())
  else (op, .error (.error (misuse "record a success" op.state)))

/-- Notes that the attempt under way has failed. -/
def recordFailure (op : Operation) (failure : Failure) (elapsed : Duration) :
    Operation × Except Halt Unit :=
  if op.state = .attempting then
    ({ op with
        lastFailure := some failure
        elapsed
        secondaryNotFound := op.secondaryNotFound || failure.isNotFoundOn op.replica }, .ok ())
  else (op, .error (.error (misuse "record a failure" op.state)))

end Operation

end StorageAccess
