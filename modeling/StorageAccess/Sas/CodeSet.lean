import StorageAccess.Error
import StorageAccess.Text.Quoted

/-! Sets of things that have a letter each. A set is written with its letters in the order in which the
things are declared, however it came about. -/
namespace StorageAccess

/-- Finitely many things, each with a letter of its own. -/
class Coded (α : Type) where
  setName : String
  all : List α
  letter : α → Char
  mem_all : ∀ x, x ∈ all
  nodup_all : all.Nodup
  letter_injective : ∀ x y, letter x = letter y → x = y

structure CodeSet (α : Type) where
  has : α → Bool

namespace CodeSet

@[ext] theorem ext {α : Type} {s t : CodeSet α} (h : ∀ x, s.has x = t.has x) : s = t := by
  cases s; cases t; congr; exact funext h

variable {α : Type} [Coded α]

def empty : CodeSet α := ⟨fun _ => false⟩

def full : CodeSet α := ⟨fun _ => true⟩

def toList (s : CodeSet α) : List α := Coded.all.filter s.has

@[simp] theorem mem_toList {s : CodeSet α} {x : α} : x ∈ s.toList ↔ s.has x = true := by
  simp [toList, Coded.mem_all]

def union (s t : CodeSet α) : CodeSet α := ⟨fun x => s.has x || t.has x⟩

def without (s t : CodeSet α) : CodeSet α := ⟨fun x => s.has x && !t.has x⟩

def contains (s t : CodeSet α) : Bool := (Coded.all : List α).all fun x => !t.has x || s.has x

def isEmpty (s : CodeSet α) : Bool := (Coded.all : List α).all fun x => !s.has x

instance : BEq (CodeSet α) := ⟨fun s t => s.toList.map Coded.letter == t.toList.map Coded.letter⟩

def collect (sets : List (CodeSet α)) : CodeSet α := sets.foldl union empty

/-- What a letter stands for. -/
def ofLetter? (c : Char) : Option α := (Coded.all : List α).find? fun x => Coded.letter x == c

def add [DecidableEq α] (s : CodeSet α) (x : α) : CodeSet α := ⟨fun y => y == x || s.has y⟩

def unknownLetter (α : Type) [Coded α] (c : Char) (s : String) : Error :=
  ⟨.signatureInput,
    "unknown " ++ Coded.setName α ++ " code " ++ Quoted.char c ++ " in " ++ Quoted.text s, none⟩

/-- A set from its letters in any order and number. -/
def ofText [DecidableEq α] (s : String) : Except Error (CodeSet α) :=
  s.toList.foldlM (fun set c =>
    match ofLetter? c with
    | some x => .ok (set.add x)
    | none => .error (unknownLetter α c s)) empty

def text (s : CodeSet α) : String := String.ofList (s.toList.map Coded.letter)

def describe (s : CodeSet α) : String := Coded.setName α ++ "(" ++ s.text ++ ")"

/-- Whether a letter is that of a member. -/
def hasLetter (s : CodeSet α) (c : Char) : Bool :=
  s.toList.any fun x => Coded.letter x == c

end CodeSet

end StorageAccess
