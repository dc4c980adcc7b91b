import StorageAccess.Web.Authority

/-! The part of an address after the authority: a path, and a query after a question mark. -/
namespace StorageAccess

/-- The characters that a path may hold unencoded. -/
def isPathChar (c : Char) : Bool :=
  let n := c.toNat
  n == 0x21 || (0x24 ≤ n && n ≤ 0x3B) || n == 0x3D || (0x40 ≤ n && n ≤ 0x5F)
    || (0x61 ≤ n && n ≤ 0x7A) || n == 0x7C || n == 0x7E || c == '\x22' || c == '\x7b' || c == '\x7d'
    || 0x80 ≤ n

/-- The characters that a query may hold unencoded. -/
def isQueryChar (c : Char) : Bool :=
  let n := c.toNat
  n == 0x21 || (0x24 ≤ n && n ≤ 0x3B) || n == 0x3D || (0x3F ≤ n && n ≤ 0x7E) || 0x80 ≤ n

/-- A path is empty, an asterisk, or begins with a slash. -/
def IsPath (cs : List Char) : Prop :=
  (cs = [] ∨ cs = ['*'] ∨ cs.head? = some '/') ∧ cs.all isPathChar = true

instance (cs : List Char) : Decidable (IsPath cs) := by unfold IsPath; infer_instance

structure PathAndQuery where
  path : String
  query : Option String
  validPath : IsPath path.toList
  validQuery : ∀ q ∈ query, q.toList.all isQueryChar = true
  /-- No query follows an asterisk. -/
  starAlone : path = "*" → query = none

namespace PathAndQuery

instance : DecidableEq PathAndQuery := fun a b =>
  decidable_of_iff (a.path = b.path ∧ a.query = b.query) (by cases a; cases b; simp)

/-- The path that is written when there is none. -/
def slash : PathAndQuery := ⟨"/", none, by decide, by simp, by simp⟩

/-- The server as a whole. -/
def star : PathAndQuery := ⟨"*", none, by decide, by simp, by simp⟩

def endsPath (c : Char) : Bool := c == '?' || c == '#'

/-- A path, then a query from the first question mark on. A number sign ends both. Only an asterisk
with nothing after it is a path without a slash at its front. -/
def ofChars (cs : List Char) : Except UriDefect PathAndQuery :=
  let path := cs.takeWhile (!endsPath ·)
  let rest := cs.dropWhile (!endsPath ·)
  let query? := match rest with
    | '?' :: more => some (more.takeWhile (· != '#'))
    | _ => none
  if cs = ['*'] then .ok star
  else if hs : path ≠ [] ∧ path.head? ≠ some '/' then .error .noLeadingSlash
  else if hp : IsPath path then
    match query? with
    | none => .ok ⟨String.ofList path, none, by simpa using hp, by simp, by simp⟩
    | some query =>
      if hq : query.all isQueryChar = true then
        .ok ⟨String.ofList path, some (String.ofList query), by simpa using hp, by simpa using hq,
          fun h => absurd (String.ofList_injective (h.trans (by rfl : "*" = String.ofList ['*'])))
            (fun h => hs (by simp [h]))⟩
      else .error .badCharacter
  else .error .badCharacter

/-- The path and the query that a whole text is. It may lack the path, but it may not be empty. -/
def ofText (s : String) : Except UriDefect PathAndQuery :=
  if s = "" then .error .empty else ofChars s.toList

/-- The path, or a slash in place of an empty one. -/
def shownPath (p : PathAndQuery) : String := if p.path = "" then "/" else p.path

def text (p : PathAndQuery) : String :=
  match p.query with
  | none => p.shownPath
  | some q => p.shownPath ++ "?" ++ q

end PathAndQuery

end StorageAccess
