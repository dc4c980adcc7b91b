import StorageAccess.Bytes.Hex
import StorageAccess.Text.Utf8
import StorageAccess.Web.Token

/-! Header fields. A name may have several values, which keep the order in which they came. -/
namespace StorageAccess

namespace HeaderDefect

/-- A value with bytes other than printable ASCII was to be read as text. -/
def unreadableValue : Error := .caused .signatureInput "failed to convert header to a str"

def malformedValue : Error := .caused .signatureInput "failed to parse header value"

def malformedName : Error := .caused .signatureInput "invalid HTTP header name"

end HeaderDefect

/-- A word without capitals that is not too long. -/
def IsHeaderName (s : String) : Prop :=
  IsToken s ∧ s.toList.all (fun c => !c.isUpper) = true ∧ s.length ≤ 65535

instance (s : String) : Decidable (IsHeaderName s) := by unfold IsHeaderName; infer_instance

structure HeaderName where
  text : String
  valid : IsHeaderName text
  deriving DecidableEq

namespace HeaderName

/-- The name in any case. -/
def ofText? (s : String) : Option HeaderName :=
  let small := String.ofList (s.toList.map Char.toLower)
  if h : IsHeaderName small then some ⟨small, h⟩ else none

def ofText (s : String) : Except Error HeaderName :=
  match ofText? s with
  | some name => .ok name
  | none => .error HeaderDefect.malformedName

end HeaderName

/-- No control characters but tabs. -/
def isValueByte (b : UInt8) : Bool := (0x20 ≤ b && b != 0x7F) || b == 0x09

def isReadableByte (b : UInt8) : Bool := (0x20 ≤ b && b < 0x7F) || b == 0x09

structure HeaderValue where
  bytes : List UInt8
  valid : bytes.all isValueByte = true
  /-- Whether the value must not be shown. -/
  sensitive : Bool
  deriving DecidableEq

namespace HeaderValue

def ofBytes? (bytes : List UInt8) : Option HeaderValue :=
  if h : bytes.all isValueByte = true then some ⟨bytes, h, false⟩ else none

def ofText (s : String) : Except Error HeaderValue :=
  match ofBytes? (Utf8.encode s) with
  | some value => .ok value
  | none => .error HeaderDefect.malformedValue

def markSensitive (v : HeaderValue) : HeaderValue := ⟨v.bytes, v.valid, true⟩

/-- The value as text, if it is printable ASCII and tabs. -/
def text (v : HeaderValue) : Except Error String :=
  if v.bytes.all isReadableByte then
    .ok (String.ofList (v.bytes.map fun b => Char.ofNat b.toNat))
  else .error HeaderDefect.unreadableValue

end HeaderValue

/-- The fields in the order in which they came. -/
structure Headers where
  fields : List (HeaderName × HeaderValue)
  deriving DecidableEq

namespace Headers

def empty : Headers := ⟨[]⟩

def values (h : Headers) (name : HeaderName) : List HeaderValue :=
  (h.fields.filter (·.1 == name)).map (·.2)

/-- The first value of a name. -/
def get? (h : Headers) (name : HeaderName) : Option HeaderValue := (h.values name).head?

def remove (h : Headers) (name : HeaderName) : Headers := ⟨h.fields.filter (·.1 != name)⟩

/-- Adds a value after the others of its name. -/
def append (h : Headers) (name : HeaderName) (value : HeaderValue) : Headers :=
  ⟨h.fields ++ [(name, value)]⟩

/-- Replaces all values of a name by one. -/
def insert (h : Headers) (name : HeaderName) (value : HeaderValue) : Headers :=
  (h.remove name).append name value

@[simp] theorem values_empty (name : HeaderName) : empty.values name = [] := rfl

@[simp] theorem values_append (h : Headers) (name other : HeaderName) (value : HeaderValue) :
    (h.append name value).values other =
      if other = name then h.values other ++ [value] else h.values other := by
  by_cases hn : name = other
  · simp [append, values, hn]
  · simp [append, values, hn, Ne.symm hn]

@[simp] theorem values_remove (h : Headers) (name other : HeaderName) :
    (h.remove name).values other = if other = name then [] else h.values other := by
  by_cases hn : other = name
  · subst hn
    simp [remove, values]
  · simp only [remove, values, List.filter_filter, if_neg hn]
    congr 1
    refine List.filter_congr fun f _ => ?_
    by_cases hf : f.1 = other
    · simp [hf, hn]
    · simp [hf]

@[simp] theorem values_insert (h : Headers) (name other : HeaderName) (value : HeaderValue) :
    (h.insert name value).values other = if other = name then [value] else h.values other := by
  by_cases hn : other = name <;> simp [insert, hn]

/-- Each name once. -/
def names (h : Headers) : List HeaderName := (h.fields.map (·.1)).eraseDups

/-- The fields by name. -/
def sorted (h : Headers) : List (HeaderName × HeaderValue) :=
  h.fields.mergeSort fun a b => decide (a.1.text ≤ b.1.text)

end Headers

end StorageAccess
