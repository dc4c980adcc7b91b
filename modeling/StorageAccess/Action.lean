import StorageAccess.Error
import StorageAccess.Fault

/-! Computations that keep a log. Records written before a failure stay in it. -/
namespace StorageAccess

inductive Level
  | debug
  | warn
  deriving DecidableEq

structure LogRecord where
  level : Level
  text : String
  deriving DecidableEq

namespace LogRecord

def line (r : LogRecord) : String :=
  match r.level with
  | .debug => "DEBUG " ++ r.text
  | .warn => "WARN " ++ r.text

end LogRecord

/-- Why a computation has no result. -/
inductive Halt
  | error (e : Error)
  | fault (f : Fault)
  deriving DecidableEq

structure Action (α : Type) where
  log : List LogRecord
  outcome : Except Halt α

namespace Action

variable {α β : Type}

def pure (x : α) : Action α := ⟨[], .ok x⟩

/-- The second computation runs only if the first has a result. -/
def bind (a : Action α) (f : α → Action β) : Action β :=
  match a.outcome with
  | .ok x => ⟨a.log ++ (f x).log, (f x).outcome⟩
  | .error e => ⟨a.log, .error e⟩

instance : Monad Action where
  pure := pure
  bind := bind

def halt (h : Halt) : Action α := ⟨[], .error h⟩

def fail (e : Error) : Action α := halt (.error e)

def record (level : Level) (text : String) : Action Unit := ⟨[⟨level, text⟩], .ok ()⟩

def debug (text : String) : Action Unit := record .debug text

def warn (text : String) : Action Unit := record .warn text

def ofExcept : Except Error α → Action α
  | .ok x => pure x
  | .error e => fail e

def ofFault : Except Fault α → Action α
  | .ok x => pure x
  | .error f => halt (.fault f)

@[simp] theorem outcome_pure (x : α) : (Pure.pure x : Action α).outcome = .ok x := rfl

@[simp] theorem log_pure (x : α) : (Pure.pure x : Action α).log = [] := rfl

@[simp] theorem outcome_bind (a : Action α) (f : α → Action β) :
    (a >>= f).outcome = a.outcome >>= fun x => (f x).outcome := by
  change (bind a f).outcome = _
  unfold bind
  cases h : a.outcome <;> rfl

end Action

end StorageAccess
