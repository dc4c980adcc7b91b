import StorageAccess.Text.GlyphTable
import StorageAccess.Text.Ranges

/-! Quoted text for messages and logs: quotes around it, backslash escapes for quotes, backslashes and
the common controls, and the code point of whatever could not be told apart on a page. -/
namespace StorageAccess.Quoted

/-- A character is shown as itself when it has a glyph and does not join the one before it. -/
def isShown (c : Char) : Bool :=
  if c.toNat < 0x7F then 0x20 ≤ c.toNat
  else !inRanges GlyphTable.extending c.toNat && !inRanges GlyphTable.unprintable c.toNat

/-- The code point in hexadecimal, as in `\u{200b}`. -/
def codePoint (c : Char) : List Char :=
  '\\' :: 'u' :: '\x7b' :: (Nat.toDigits 16 c.toNat ++ ['\x7d'])

/-- One character between quotes of the given kind. -/
def escape (quote c : Char) : List Char :=
  if c == '\x00' then ['\\', '0']
  else if c == '\t' then ['\\', 't']
  else if c == '\r' then ['\\', 'r']
  else if c == '\n' then ['\\', 'n']
  else if c == '\\' || c == quote then ['\\', c]
  else if isShown c then [c]
  else codePoint c

/-- A text between double quotes. -/
def text (s : String) : String :=
  String.ofList ('\x22' :: (s.toList.flatMap (escape '\x22') ++ ['\x22']))

/-- A character between single quotes. -/
def char (c : Char) : String :=
  String.ofList ('\x27' :: (escape '\x27' c ++ ['\x27']))

def optional : Option String → String
  | some s => "Some(" ++ text s ++ ")"
  | none => "None"

end StorageAccess.Quoted
