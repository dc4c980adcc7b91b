/-! Documents of values. Reading keeps numbers as they are written and accepts strings that are no
texts, so that a reader of a document can judge both for itself. -/
namespace StorageAccess

inductive Json
  | null
  | bool (b : Bool)
  /-- A number as it is written. -/
  | number (lexeme : String)
  /-- A string; `none` if an escape in it stands for half of a character. -/
  | string (text : Option String)
  | array (items : List Json)
  | object (fields : List (Option String × Json))

namespace Json

def ofText (s : String) : Json := .string (some s)

def ofNat (n : Nat) : Json := .number (toString n)

def ofInt (n : Int) : Json := .number (toString n)

def record (fields : List (String × Json)) : Json := .object (fields.map fun (k, v) => (some k, v))

/-- Part of a string: a character, or an escape that names a sixteen-bit unit. -/
inductive Piece
  | char (c : Char)
  | unit (n : Nat)

def hexDigit? (c : Char) : Option Nat :=
  if c.isDigit then some (c.toNat - 48)
  else if 'a' ≤ c ∧ c ≤ 'f' then some (c.toNat - 87)
  else if 'A' ≤ c ∧ c ≤ 'F' then some (c.toNat - 55)
  else none

def hexUnit? (a b c d : Char) : Option Nat := do
  let a ← hexDigit? a
  let b ← hexDigit? b
  let c ← hexDigit? c
  let d ← hexDigit? d
  return a * 4096 + b * 256 + c * 16 + d

def shortEscape? (c : Char) : Option Char :=
  if c == '\x22' || c == '\\' || c == '/' then some c
  else if c == 'b' then some '\x08'
  else if c == 'f' then some '\x0c'
  else if c == 'n' then some '\n'
  else if c == 'r' then some '\r'
  else if c == 't' then some '\t'
  else none

/-- The rest of a string after its first quote, and what follows it. -/
def pieces : List Char → Option (List Piece × List Char)
  | [] => none
  | '\\' :: 'u' :: a :: b :: c :: d :: rest => do
    let n ← hexUnit? a b c d
    let (ps, rest) ← pieces rest
    return (.unit n :: ps, rest)
  | '\\' :: c :: rest => do
    let c ← shortEscape? c
    let (ps, rest) ← pieces rest
    return (.char c :: ps, rest)
  | c :: rest =>
    if c == '\x22' then some ([], rest)
    else if c == '\\' || c.toNat < 0x20 then none
    else (pieces rest).map fun (ps, rest) => (.char c :: ps, rest)

/-- The characters of a string, in which units from D800 on stand for a character by pairs. -/
def charsOfPieces : List Piece → Option (List Char)
  | [] => some []
  | .char c :: rest => (charsOfPieces rest).map (c :: ·)
  | .unit n :: rest =>
    if n < 0xD800 ∨ 0xE000 ≤ n then (charsOfPieces rest).map (Char.ofNat n :: ·)
    else if n < 0xDC00 then
      match rest with
      | .unit m :: rest =>
        if 0xDC00 ≤ m ∧ m < 0xE000 then
          (charsOfPieces rest).map (Char.ofNat (0x10000 + (n - 0xD800) * 0x400 + (m - 0xDC00)) :: ·)
        else none
      | _ => none
    else none

def stringAfterQuote (cs : List Char) : Option (Option String × List Char) :=
  (pieces cs).map fun (ps, rest) => ((charsOfPieces ps).map String.ofList, rest)

def skipBlank (cs : List Char) : List Char :=
  cs.dropWhile fun c => c == ' ' || c == '\n' || c == '\t' || c == '\r'

/-- At least one digit and what follows the digits. -/
def digits (cs : List Char) : Option (List Char × List Char) :=
  let ds := cs.takeWhile Char.isDigit
  if ds.isEmpty then none else some (ds, cs.dropWhile Char.isDigit)

def wholePart (cs : List Char) : Option (List Char × List Char) :=
  match cs with
  | '0' :: rest =>
    match rest with
    | c :: _ => if c.isDigit then none else some (['0'], rest)
    | [] => some (['0'], rest)
  | _ => digits cs

def fractionPart (cs : List Char) : Option (List Char × List Char) :=
  match cs with
  | '.' :: rest => (digits rest).map fun (ds, rest) => ('.' :: ds, rest)
  | _ => some ([], cs)

def exponentPart (cs : List Char) : Option (List Char × List Char) :=
  match cs with
  | c :: rest =>
    if c == 'e' || c == 'E' then
      let (sign, rest) := match rest with
        | '+' :: more => (['+'], more)
        | '-' :: more => (['-'], more)
        | _ => ([], rest)
      (digits rest).map fun (ds, rest) => (c :: sign ++ ds, rest)
    else some ([], cs)
  | [] => some ([], cs)

def numberLexeme (cs : List Char) : Option (String × List Char) := do
  let (sign, cs) := match cs with
    | '-' :: rest => (['-'], rest)
    | _ => ([], cs)
  let (whole, cs) ← wholePart cs
  let (fraction, cs) ← fractionPart cs
  let (exponent, cs) ← exponentPart cs
  return (String.ofList (sign ++ whole ++ fraction ++ exponent), cs)

/-- Items with commas between them and a closing bracket, at most `fuel` of them. -/
def itemsUntil {α : Type} (close : Char) (item : List Char → Option (α × List Char)) :
    Nat → List Char → Option (List α × List Char)
  | 0, _ => none
  | fuel + 1, cs => do
    let (x, rest) ← item cs
    match skipBlank rest with
    | c :: rest =>
      if c == ',' then
        let (xs, rest) ← itemsUntil close item fuel rest
        return (x :: xs, rest)
      else if c == close then some ([x], rest)
      else none
    | [] => none

/-- Nothing, or items, and a closing bracket. -/
def bracketed {α : Type} (close : Char) (item : List Char → Option (α × List Char)) (fuel : Nat)
    (cs : List Char) : Option (List α × List Char) :=
  match skipBlank cs with
  | c :: rest => if c == close then some ([], rest) else itemsUntil close item fuel cs
  | [] => none

def field (value : List Char → Option (Json × List Char)) (cs : List Char) :
    Option ((Option String × Json) × List Char) :=
  match skipBlank cs with
  | '\x22' :: rest => do
    let (key, rest) ← stringAfterQuote rest
    match skipBlank rest with
    | ':' :: rest => do
      let (v, rest) ← value rest
      return ((key, v), rest)
    | _ => none
  | _ => none

/-- A value that is nested less than `fuel` levels deep, and what follows it. -/
def value : Nat → List Char → Option (Json × List Char)
  | 0, _ => none
  | fuel + 1, cs =>
    match skipBlank cs with
    | 'n' :: 'u' :: 'l' :: 'l' :: rest => some (.null, rest)
    | 't' :: 'r' :: 'u' :: 'e' :: rest => some (.bool true, rest)
    | 'f' :: 'a' :: 'l' :: 's' :: 'e' :: rest => some (.bool false, rest)
    | '\x22' :: rest => (stringAfterQuote rest).map fun (s, rest) => (.string s, rest)
    | '[' :: rest =>
      (bracketed ']' (value fuel) (rest.length + 1) rest).map fun (xs, rest) => (.array xs, rest)
    | '\x7b' :: rest =>
      (bracketed '\x7d' (field (value fuel)) (rest.length + 1) rest).map fun (xs, rest) =>
        (.object xs, rest)
    | cs => (numberLexeme cs).map fun (s, rest) => (.number s, rest)

def parse? (s : String) : Option Json := do
  let cs := s.toList
  let (v, rest) ← value (cs.length + 1) cs
  if (skipBlank rest).isEmpty then some v else none

def escapeChar (c : Char) : List Char :=
  if c == '\x22' || c == '\\' then ['\\', c]
  else if c == '\n' then ['\\', 'n']
  else if c == '\r' then ['\\', 'r']
  else if c == '\t' then ['\\', 't']
  else if c == '\x08' then ['\\', 'b']
  else if c == '\x0c' then ['\\', 'f']
  else if c.toNat < 0x20 then
    ['\\', 'u', '0', '0', Nat.digitChar (c.toNat / 16), Nat.digitChar (c.toNat % 16)]
  else [c]

def quote (s : String) : List Char := '\x22' :: (s.toList.flatMap escapeChar ++ ['\x22'])

mutual

/-- The document without blanks. -/
def chars : Json → List Char
  | .null => ['n', 'u', 'l', 'l']
  | .bool b => if b then ['t', 'r', 'u', 'e'] else ['f', 'a', 'l', 's', 'e']
  | .number lexeme => lexeme.toList
  | .string text => quote (text.getD "\uFFFD")
  | .array items => '[' :: (itemChars items ++ [']'])
  | .object fields => '\x7b' :: (fieldChars fields ++ ['\x7d'])

def itemChars : List Json → List Char
  | [] => []
  | [v] => chars v
  | v :: rest => chars v ++ ',' :: itemChars rest

def fieldChars : List (Option String × Json) → List Char
  | [] => []
  | [(key, v)] => quote (key.getD "\uFFFD") ++ ':' :: chars v
  | (key, v) :: rest => quote (key.getD "\uFFFD") ++ ':' :: (chars v ++ ',' :: fieldChars rest)

end

def write (v : Json) : String := String.ofList (chars v)

def get? (v : Json) (key : String) : Option Json :=
  match v with
  | .object fields => (fields.find? (·.1 == some key)).map (·.2)
  | _ => none

end Json

end StorageAccess
