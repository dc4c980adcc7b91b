import StorageAccess.Fault

/-! Variables that settings and credentials are read from. -/
namespace StorageAccess

/-- Where the variables come from. -/
inductive EnvironmentKind
  | empty
  | fixed
  | process
  deriving DecidableEq

structure Environment where
  kind : EnvironmentKind
  bindings : List (String × String)

namespace Environment

def empty : Environment := ⟨.empty, []⟩

/-- A fixed set of variables. The last of two values for one name counts. -/
def ofPairs (bindings : List (String × String)) : Environment := ⟨.fixed, bindings.reverse⟩

/-- Names are not empty, and neither names nor values hold what would end them. -/
def isSettable (setting : String × String) : Bool :=
  !setting.1.isEmpty && setting.1.toList.all (fun c => c != '=' && c != '\x00')
    && setting.2.toList.all (· != '\x00')

/-- A process in which the given variables are set. -/
def ofProcess (bindings : List (String × String)) : Except Fault Environment :=
  if bindings.all isSettable then .ok ⟨.process, bindings.reverse⟩
  else .error .unsettableVariable

/-- The value of the variable of exactly this name. -/
def value? (env : Environment) (name : String) : Option String :=
  match env.kind with
  | .empty => none
  | _ => env.bindings.lookup name

/-- What a value goes on with after the given text and an equals sign. -/
def valueAfter? (start : List Char) (value : String) : Option String :=
  ((start ++ ['=']).isPrefixOf? ('=' :: value.toList)).map String.ofList

/-- The value of a variable. A process keeps each variable as one line, its name, an equals sign and
its value, and finds the line that begins with the wanted name and an equals sign. A wanted name with
an equals sign in it can thus end inside the value. -/
def get? (env : Environment) (name : String) : Option String :=
  match env.kind with
  | .process =>
    (env.value? (String.ofList (name.toList.takeWhile (· != '=')))).bind
      (valueAfter? (name.toList.dropWhile (· != '=')))
  | _ => env.value? name

/-- A name without an equals sign is a whole name. -/
theorem get?_eq_value? (env : Environment) {name : String}
    (h : name.toList.all (· != '=') = true) : env.get? name = env.value? name := by
  have hd : name.toList.dropWhile (· != '=') = [] := by
    generalize name.toList = cs at h
    induction cs with
    | nil => rfl
    | cons c cs ih =>
      simp only [List.all_cons, Bool.and_eq_true] at h
      simpa only [List.dropWhile_cons, h.1, if_true] using ih h.2
  have ht : name.toList.takeWhile (· != '=') = name.toList := by
    simpa only [hd, List.append_nil] using
      List.takeWhile_append_dropWhile (p := (· != '=')) (l := name.toList)
  unfold get?
  split
  · rw [ht, hd]
    have hv : valueAfter? [] = some := funext fun _ => congrArg some String.ofList_toList
    simp only [hv, String.ofList_toList, Option.bind_fun_some]
  · rfl

/-- The variables, each once, by name. -/
def toList (env : Environment) : List (String × String) :=
  let names := (env.bindings.map (·.1)).eraseDups.mergeSort (fun a b => decide (a ≤ b))
  names.filterMap fun name => (env.value? name).map fun v => (name, v)

def first? (env : Environment) (names : List String) : Option String :=
  names.findSome? env.get?

def describe (env : Environment) : String :=
  match env.kind with
  | .empty => "Context \x7b env: NoopEnv \x7d"
  | .fixed => "Context \x7b env: StaticEnv \x7d"
  | .process => "Context \x7b env: OsEnv \x7d"

end Environment

end StorageAccess
