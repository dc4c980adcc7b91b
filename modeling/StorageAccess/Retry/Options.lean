import StorageAccess.Environment
import StorageAccess.Error
import StorageAccess.Number.FloatText
import StorageAccess.Number.Reading
import StorageAccess.Retry.Backoff
import StorageAccess.Text.Blank
import StorageAccess.Text.Lowercase
import StorageAccess.Text.Quoted

/-! What can be chosen about retries. -/
namespace StorageAccess

structure RetryOptions where
  growth : Growth
  baseDelay : Duration
  maxDelay : Duration
  /-- Attempts in all, the first one included. -/
  maxAttempts : UInt32
  /-- The time for all attempts and delays. -/
  maxElapsed : Duration
  jitter : Float
  /-- Whether reads may go to the other replica. -/
  secondaryReads : Bool

/-- Why options cannot be used. -/
inductive OptionsDefect
  | noAttempts
  | baseAboveMax (base max : Duration)
  | noTime
  | jitterOutOfRange (jitter : Float)
  | unreadable (name value : String)
  | unknownGrowth (name value : String)

namespace OptionsDefect

def text : OptionsDefect → String
  | .noAttempts => "max_attempts must be at least 1"
  | .baseAboveMax base max =>
    "base_delay " ++ base.text ++ " is larger than max_delay " ++ max.text
  | .noTime => "max_elapsed must be positive"
  | .jitterOutOfRange jitter => "jitter must be in [0, 1), got " ++ FloatLayout.plain.write jitter
  | .unreadable name value => name ++ " has invalid value " ++ Quoted.text value
  | .unknownGrowth name value =>
    name ++ " must be linear or exponential, got " ++ Quoted.text value

def error (d : OptionsDefect) : Error := ⟨.configInvalid, d.text, none⟩

end OptionsDefect

namespace RetryOptions

/-- Four attempts within two minutes, waiting for one second and then twice as long each time. -/
def standard : RetryOptions where
  growth := .exponential
  baseDelay := .ofSeconds 1
  maxDelay := .ofSeconds 32
  maxAttempts := 4
  maxElapsed := .ofSeconds 120
  jitter := 0.2
  secondaryReads := false

instance : BEq RetryOptions where
  beq a b :=
    a.growth == b.growth && a.baseDelay == b.baseDelay && a.maxDelay == b.maxDelay
      && a.maxAttempts == b.maxAttempts && a.maxElapsed == b.maxElapsed && a.jitter == b.jitter
      && a.secondaryReads == b.secondaryReads

/-- There is an attempt and time for it, no delay is above the greatest one, and the jitter is below
one. -/
def validate (o : RetryOptions) : Except Error Unit :=
  if o.maxAttempts = 0 then .error OptionsDefect.noAttempts.error
  else if o.maxDelay < o.baseDelay then
    .error (OptionsDefect.baseAboveMax o.baseDelay o.maxDelay).error
  else if o.maxElapsed.nanoseconds = 0 then .error OptionsDefect.noTime.error
  else if 0.0 ≤ o.jitter && o.jitter < 1.0 then .ok ()
  else .error (OptionsDefect.jitterOutOfRange o.jitter).error

/-- The value of a variable, if it is set. Blanks around it do not count. -/
def setting {α : Type} (env : Environment) (name : String) (read : List Char → Option α) :
    Except Error (Option α) :=
  match env.get? name with
  | none => .ok none
  | some value =>
    match read (Blank.trim value.toList) with
    | some x => .ok (some x)
    | none => .error (OptionsDefect.unreadable name value).error

def milliseconds? (cs : List Char) : Option Duration :=
  (Reading.natural? 18_446_744_073_709_551_615 cs).map fun n => Duration.ofMilliseconds n.toUInt64

def growthSetting (env : Environment) (name : String) : Except Error (Option Growth) :=
  match env.get? name with
  | none => .ok none
  | some value =>
    if lowercase value = "linear" then .ok (some .linear)
    else if lowercase value = "exponential" then .ok (some .exponential)
    else .error (OptionsDefect.unknownGrowth name value).error

/-- The options with those replaced for which a variable is set. -/
def overriddenBy (o : RetryOptions) (env : Environment) : Except Error RetryOptions := do
  let baseDelay ← setting env "STORAUTH_RETRY_BASE_DELAY_MS" milliseconds?
  let maxDelay ← setting env "STORAUTH_RETRY_MAX_DELAY_MS" milliseconds?
  let maxAttempts ← setting env "STORAUTH_RETRY_MAX_ATTEMPTS" (Reading.natural? 4_294_967_295)
  let maxElapsed ← setting env "STORAUTH_RETRY_MAX_ELAPSED_MS" milliseconds?
  let jitter ← setting env "STORAUTH_RETRY_JITTER" Reading.float?
  let growth ← growthSetting env "STORAUTH_RETRY_BACKOFF"
  let secondaryReads ← setting env "STORAUTH_RETRY_SECONDARY_READS" Reading.bool?
  return {
    growth := growth.getD o.growth
    baseDelay := baseDelay.getD o.baseDelay
    maxDelay := maxDelay.getD o.maxDelay
    maxAttempts := (maxAttempts.map Nat.toUInt32).getD o.maxAttempts
    maxElapsed := maxElapsed.getD o.maxElapsed
    jitter := jitter.getD o.jitter
    secondaryReads := secondaryReads.getD o.secondaryReads }

def backoff (o : RetryOptions) : Backoff := ⟨o.growth, o.baseDelay, o.maxDelay, o.jitter⟩

end RetryOptions

end StorageAccess
