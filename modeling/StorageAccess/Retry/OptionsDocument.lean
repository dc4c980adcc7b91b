import StorageAccess.Json
import StorageAccess.Number.Digits
import StorageAccess.Retry.Options

/-! Options as documents: an object with a field for each option, or an array with the options in
order. Delays are in milliseconds, and what is missing has its usual value. -/
namespace StorageAccess
namespace RetryOptions

def fieldNames : List String :=
  ["backoff", "base_delay_ms", "max_delay_ms", "max_attempts", "max_elapsed_ms", "jitter",
    "secondary_reads"]

def toJson (o : RetryOptions) : Json :=
  .record [
    ("backoff", .ofText o.growth.text),
    ("base_delay_ms", .ofNat o.baseDelay.milliseconds),
    ("max_delay_ms", .ofNat o.maxDelay.milliseconds),
    ("max_attempts", .ofNat o.maxAttempts.toNat),
    ("max_elapsed_ms", .ofNat o.maxElapsed.milliseconds),
    ("jitter", .number (FloatLayout.document.write o.jitter)),
    ("secondary_reads", .bool o.secondaryReads)]

namespace Document

/-- A whole number up to `max`, written without point and exponent. -/
def natural? (max : Nat) : Json → Option Nat
  | .number lexeme =>
    let cs := lexeme.toList
    if cs.all Char.isDigit then Reading.natural? max cs else none
  | _ => none

def milliseconds? (v : Json) : Option Duration :=
  (natural? 18_446_744_073_709_551_615 v).map fun n => Duration.ofMilliseconds n.toUInt64

/-- Digits read into a number below `2 ^ 64`, and those that no longer fit. -/
def leadingDigits (n : Nat) : List Char → Nat × List Char
  | [] => (n, [])
  | c :: rest =>
    let next := 10 * n + (c.toNat - 48)
    if next < 18_446_744_073_709_551_616 then leadingDigits next rest else (n, c :: rest)

/-- The significand of a number and the power of ten that goes with it. Once a digit does not fit into
64 bits, it and those after it count only for the power. -/
def significand (whole fraction : List Char) : Nat × Int :=
  let (n, rest) := leadingDigits 0 whole
  if rest.isEmpty then
    let (m, dropped) := leadingDigits n fraction
    (m, (dropped.length : Int) - fraction.length)
  else
    let (m, dropped) := leadingDigits n fraction
    (m, (rest.length : Int) + dropped.length - fraction.length)

/-- A power of ten as a double, up to `10 ^ 308`. -/
def power (n : Nat) : Float := Binary64.ofDecimal 1 n

/-- Multiplies or divides by a power of ten, by `10 ^ 308` at most in one step. There is no result if it
would be infinite. -/
def scaled (x : Float) (exponent : Int) : Option Float :=
  if 0 ≤ exponent then
    if exponent ≤ 308 then
      let y := x * power exponent.toNat
      if y.isInf then none else some y
    else if x == 0.0 then some x else none
  else
    let n := exponent.natAbs
    if n ≤ 308 then some (x / power n)
    else if n ≤ 616 then some (x / power 308 / power (n - 308))
    else if n ≤ 924 then some (x / power 308 / power 308 / power (n - 616))
    else some 0.0

/-- The sign, the digits before and after the point, and the exponent of a written number. -/
def parts (cs : List Char) : Bool × List Char × List Char × Option (Bool × List Char) :=
  let (negative, cs) := match cs with
    | '-' :: rest => (true, rest)
    | _ => (false, cs)
  let whole := cs.takeWhile Char.isDigit
  let cs := cs.dropWhile Char.isDigit
  let (fraction, cs) := match cs with
    | '.' :: rest => (rest.takeWhile Char.isDigit, rest.dropWhile Char.isDigit)
    | _ => ([], cs)
  let exponent := match cs with
    | _ :: '-' :: digits => some (true, digits)
    | _ :: '+' :: digits => some (false, digits)
    | _ :: digits => some (false, digits)
    | [] => none
  (negative, whole, fraction, exponent)

/-- A number as a double: its significand is rounded first and then scaled. Exponents from `2 ^ 31` on
stand for no number, or for zero. -/
def float? : Json → Option Float
  | .number lexeme =>
    let (negative, whole, fraction, exponent) := parts lexeme.toList
    let (n, shift) := significand whole fraction
    let positive :=
      match exponent with
      | none => scaled n.toUInt64.toFloat shift
      | some (below, digits) =>
        let e := ofDigits digits
        if e < 2_147_483_648 then scaled n.toUInt64.toFloat (shift + if below then -(e : Int) else e)
        else if n ≠ 0 && !below then none
        else some 0.0
    positive.map fun x => if negative then -x else x
  | _ => none

def bool? : Json → Option Bool
  | .bool b => some b
  | _ => none

def growthOfText? (s : String) : Option Growth :=
  if s = "linear" then some .linear
  else if s = "exponential" then some .exponential
  else none

/-- A word, or an object with the word as its only field and nothing in it. -/
def growth? : Json → Option Growth
  | .string (some s) => growthOfText? s
  | .object [(some s, .null)] => growthOfText? s
  | _ => none

/-- The value of a field, which may be missing, as it is read. -/
def optional {α : Type} (usual : α) (read : Json → Option α) : Option Json → Option α
  | some v => read v
  | none => some usual

/-- The options from the values of the fields, taken in order. -/
def ofValues (value : Nat → Option Json) : Option RetryOptions := do
  let growth ← optional standard.growth growth? (value 0)
  let baseDelay ← optional standard.baseDelay milliseconds? (value 1)
  let maxDelay ← optional standard.maxDelay milliseconds? (value 2)
  let maxAttempts ←
    optional standard.maxAttempts (fun v => (natural? 4_294_967_295 v).map Nat.toUInt32) (value 3)
  let maxElapsed ← optional standard.maxElapsed milliseconds? (value 4)
  let jitter ← optional standard.jitter float? (value 5)
  let secondaryReads ← optional standard.secondaryReads bool? (value 6)
  return { growth, baseDelay, maxDelay, maxAttempts, maxElapsed, jitter, secondaryReads }

/-- Whether no known field occurs twice and all names are texts. -/
def hasClearFields (fields : List (Option String × Json)) : Bool :=
  fields.all (·.1.isSome)
    && fieldNames.all fun name => (fields.filter (·.1 == some name)).length ≤ 1

/-- The options that a document describes. -/
def ofJson? : Json → Option RetryOptions
  | .object fields =>
    if hasClearFields fields then
      ofValues fun i => ((fieldNames[i]?).bind fun name => (Json.object fields).get? name)
    else none
  | .array items => if items.length ≤ fieldNames.length then ofValues (items[·]?) else none
  | _ => none

end Document

def ofJsonText? (s : String) : Option RetryOptions := (Json.parse? s).bind Document.ofJson?

end RetryOptions
end StorageAccess
