import StorageAccess.Text.CaseTable
import StorageAccess.Text.Ranges

/-! Lower-casing of a text. A character maps alone except for the capital sigma, whose form depends on
whether it ends a word, and for the dotted capital I, which becomes two characters. -/
namespace StorageAccess
namespace Lowercase
open CaseTable

/-- The lower-case form of one character out of context. -/
def ofChar (c : Char) : Char :=
  match runs.find? (·.covers c.toNat) with
  | some run => Char.ofNat (run.target + (c.toNat - run.first))
  | none => c

/-- Whether the first character that is not ignorable has case. -/
def meetsCased (cs : List Char) : Bool :=
  match cs.dropWhile (inRanges ignorable ·.toNat) with
  | c :: _ => inRanges cased c.toNat
  | [] => false

/-- A capital sigma ends a word when a cased letter comes before it and none follows. -/
def sigma (before after : List Char) : Char :=
  if meetsCased before && !meetsCased after then 'ς' else 'σ'

/-- Lower-cases the characters that follow `before`, which holds the earlier ones, nearest first. -/
def chars (before : List Char) : List Char → List Char
  | [] => []
  | c :: rest =>
    let form :=
      if c == 'Σ' then [sigma before rest]
      else if c == 'İ' then ['i', '\u0307']
      else [ofChar c]
    form ++ chars (c :: before) rest

/-- Only the letters A to Z have another form here. -/
def ofBasicLatin (c : Char) : Char :=
  if 'A' ≤ c ∧ c ≤ 'Z' then Char.ofNat (c.toNat + 32) else c

/-- Equality up to the case of the letters A to Z. -/
def sameBasicLatin (s t : String) : Bool :=
  s.toList.map ofBasicLatin == t.toList.map ofBasicLatin

end Lowercase

def lowercase (s : String) : String := String.ofList (Lowercase.chars [] s.toList)

end StorageAccess
