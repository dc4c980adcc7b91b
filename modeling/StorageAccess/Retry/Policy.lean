import StorageAccess.Retry.Operation
import StorageAccess.Retry.Options

/-! Deciding after each failed attempt whether to make another one, when, and where. -/
namespace StorageAccess

/-- Why a decision is what it is. -/
inductive DecisionReason
  | transient (failure : Failure)
  /-- The secondary replica did not have what a read looked for, so the primary is asked. -/
  | secondaryNotFound
  | nonRetryable (failure : Failure)
  | maxAttempts
  | maxElapsed
  deriving DecidableEq

namespace DecisionReason

def text : DecisionReason → String
  | .transient failure => "transient " ++ failure.text
  | .secondaryNotFound => "secondary returned 404"
  | .nonRetryable failure => "non-retryable " ++ failure.text
  | .maxAttempts => "max attempts reached"
  | .maxElapsed => "max elapsed time reached"

def describe : DecisionReason → String
  | .transient failure => "Transient(" ++ failure.describe ++ ")"
  | .secondaryNotFound => "SecondaryNotFound"
  | .nonRetryable failure => "NonRetryable(" ++ failure.describe ++ ")"
  | .maxAttempts => "MaxAttempts"
  | .maxElapsed => "MaxElapsed"

end DecisionReason

structure Decision where
  retry : Bool
  delay : Duration
  replica : Replica
  reason : DecisionReason
  deriving DecidableEq

namespace Decision

def stop (replica : Replica) (reason : DecisionReason) : Decision := ⟨false, .zero, replica, reason⟩

end Decision

/-- Why an operation gave up. -/
inductive GivingUp (ε : Type)
  | nonRetryable (error : ε) (attempts : UInt32)
  | exhausted (error : ε) (attempts : UInt32) (elapsed : Duration)
  /-- The operation was not led through its states in order. -/
  | misused (error : Error)

namespace GivingUp

variable {ε : Type}

def last? : GivingUp ε → Option ε
  | .nonRetryable error _ => some error
  | .exhausted error _ _ => some error
  | .misused _ => none

def attempts : GivingUp ε → UInt32
  | .nonRetryable _ attempts => attempts
  | .exhausted _ attempts _ => attempts
  | .misused _ => 0

def isExhausted : GivingUp ε → Bool
  | .exhausted _ _ _ => true
  | _ => false

def text (errorText : ε → String) : GivingUp ε → String
  | .nonRetryable error attempts =>
    "non-retryable failure after " ++ toString attempts.toNat ++ " attempts: " ++ errorText error
  | .exhausted error attempts elapsed =>
    "retries exhausted after " ++ toString attempts.toNat ++ " attempts in " ++ elapsed.text ++ ": "
      ++ errorText error
  | .misused error => "retry context misused: " ++ error.text

/-- The text of what lies behind. -/
def sourceText (errorText : ε → String) : GivingUp ε → String
  | .nonRetryable error _ => errorText error
  | .exhausted error _ _ => errorText error
  | .misused error => error.text

end GivingUp

structure RetryPolicy where
  backoff : Strategy
  maxAttempts : UInt32
  maxElapsed : Duration
  secondaryReads : Bool

namespace RetryPolicy

def ofOptions (o : RetryOptions) : Except Error RetryPolicy := do
  o.validate
  return ⟨o.backoff, o.maxAttempts, o.maxElapsed, o.secondaryReads⟩

/-- Reads alternate between the replicas, if that is wanted, until the secondary one has answered 404. -/
def nextReplica (p : RetryPolicy) (op : Operation) : Replica :=
  if p.secondaryReads && op.readOnly && !op.secondaryNotFound then op.replica.other else .primary

/-- A read that the secondary replica answered with 404 is tried again on the primary. -/
def isRedirected (op : Operation) (failure : Failure) : Bool :=
  op.readOnly && op.replica == .secondary && failure == .status 404

def consultedEarly (op : Operation) : Error :=
  ⟨.unexpected, "retry policy consulted while " ++ op.state.name ++ " after "
    ++ toString op.attempts.toNat ++ " attempts", none⟩

def consultedWithoutFailure : Error :=
  ⟨.unexpected, "retry policy consulted without a failure", none⟩

/-- Decides on an operation whose last attempt has ended with the given failure. -/
def judge (p : RetryPolicy) (unit : Float) (op : Operation) (failure : Failure) :
    Operation × Action Decision :=
  if !isRedirected op failure && !failure.isTransient then
    ({ op with state := .nonRetryable }, do
      Action.debug ("not retrying: " ++ (DecisionReason.nonRetryable failure).text)
      return .stop op.replica (.nonRetryable failure))
  else if p.maxAttempts ≤ op.attempts then
    ({ op with state := .exhausted }, do
      Action.warn ("giving up after " ++ toString op.attempts.toNat ++ " attempts, last failure: "
        ++ failure.text)
      return .stop op.replica .maxAttempts)
  else
    match p.backoff.delay op.attempts unit with
    | .error f => (op, Action.halt (.fault f))
    | .ok delay =>
      if p.maxElapsed < op.elapsed.add delay then
        ({ op with state := .exhausted }, do
          Action.warn ("giving up after " ++ op.elapsed.text ++ ", last failure: " ++ failure.text)
          return .stop op.replica .maxElapsed)
      else
        let replica := p.nextReplica op
        let reason : DecisionReason :=
          if isRedirected op failure then .secondaryNotFound else .transient failure
        ({ op with state := .retrying }, do
          Action.debug ("retrying attempt " ++ toString (op.attempts.toNat + 1) ++ " against "
            ++ replica.text ++ " in " ++ delay.text ++ ": " ++ reason.text)
          return ⟨true, delay, replica, reason⟩)

/-- Decides after a failure was recorded. The random number is for the delay. -/
def decide (p : RetryPolicy) (unit : Float) (op : Operation) : Operation × Action Decision :=
  if op.state ≠ .attempting ∨ op.attempts = 0 then (op, Action.fail (consultedEarly op))
  else
    match op.lastFailure with
    | none => (op, Action.fail consultedWithoutFailure)
    | some failure => p.judge unit op failure

/-- The outcome of a step that was not taken: misuse is a way to give up. -/
def ofHalt {ε α : Type} : Halt → Except Halt (Except (GivingUp ε) α)
  | .error e => .ok (.error (.misused e))
  | .fault f => .error (.fault f)

/-- What a decision means for an attempt that failed with the given error. -/
def conclude {ε : Type} (op : Operation) (error : ε) (d : Decision) : Except (GivingUp ε) Decision :=
  match op.state with
  | .nonRetryable => .error (.nonRetryable error op.attempts)
  | .exhausted => .error (.exhausted error op.attempts op.elapsed)
  | _ => .ok d

/-- The same for a decision that may not have been taken. -/
def settle {ε : Type} (op : Operation) (error : ε) (decision : Action Decision) :
    Action (Except (GivingUp ε) Decision) :=
  match decision.outcome with
  | .ok d => ⟨decision.log, .ok (conclude op error d)⟩
  | .error h => ⟨decision.log, ofHalt h⟩

def onFailure {ε : Type} [Classified ε] (p : RetryPolicy) (unit : Float) (op : Operation) (error : ε)
    (elapsed : Duration) : Operation × Action (Except (GivingUp ε) Decision) :=
  match op.recordFailure (Classified.failure error) elapsed with
  | (op, .error h) => (op, ⟨[], ofHalt h⟩)
  | (op, .ok ()) => ((p.decide unit op).1, settle (p.decide unit op).1 error (p.decide unit op).2)

end RetryPolicy

end StorageAccess
