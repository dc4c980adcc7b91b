import StorageAccess.Error

/-! Words of the HTTP syntax, and the methods, which are words. -/
namespace StorageAccess

/-- A letter or digit of ASCII, or a mark that separates nothing. -/
def isTokenChar (c : Char) : Bool :=
  c.isAlphanum || c == '!' || c == '#' || c == '$' || c == '%' || c == '&' || c == '\x27' || c == '*'
    || c == '+' || c == '-' || c == '.' || c == '^' || c == '_' || c == '\x60' || c == '|' || c == '~'

/-- One or more such characters. -/
def IsToken (s : String) : Prop := s ≠ "" ∧ s.toList.all isTokenChar = true

instance (s : String) : Decidable (IsToken s) := by unfold IsToken; infer_instance

/-- What a request asks for. Case is kept. -/
structure Method where
  text : String
  isToken : IsToken text
  deriving DecidableEq

namespace Method

def ofText? (s : String) : Option Method := if h : IsToken s then some ⟨s, h⟩ else none

end Method

end StorageAccess
