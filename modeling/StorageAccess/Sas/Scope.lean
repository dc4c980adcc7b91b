import StorageAccess.Sas.Grantable
import StorageAccess.Text.Lowercase

/-! The resources that shared access can be limited to. -/
namespace StorageAccess

inductive Scope
  | blob (container blob : String)
  /-- A container and every blob in it. -/
  | container (container : String)
  /-- A queue and its messages. -/
  | queue (queue : String)
  /-- A table, or a range of keys in it. -/
  | table (table : String)
  | file (share path : String)
  /-- A share and every file in it. -/
  | share (share : String)
  deriving DecidableEq

namespace Scope

def service : Scope → Service
  | .blob _ _ => .blob
  | .container _ => .blob
  | .queue _ => .queue
  | .table _ => .table
  | .file _ _ => .file
  | .share _ => .file

/-- The letter for the kind of resource, in the services that tell kinds apart. -/
def kindLetter? : Scope → Option String
  | .blob _ _ => some "b"
  | .container _ => some "c"
  | .file _ _ => some "f"
  | .share _ => some "s"
  | .queue _ => none
  | .table _ => none

/-- The letters of the permissions that a resource knows, in the order in which they are signed. -/
def permissionOrder : Scope → String
  | .blob _ _ => "racwd"
  | .container _ => "racwdl"
  | .queue _ => "raup"
  | .table _ => "raud"
  | .file _ _ => "rcwd"
  | .share _ => "rcwdl"

def withoutLeadingSlashes (s : String) : String :=
  String.ofList (s.toList.dropWhile (· == '/'))

def path : Scope → String
  | .blob parent name => parent ++ "/" ++ withoutLeadingSlashes name
  | .container name => name
  | .queue name => name
  | .table name => lowercase name
  | .file parent inner => parent ++ "/" ++ withoutLeadingSlashes inner
  | .share name => name

/-- Service, account and path, as they are signed. -/
def canonicalPath (scope : Scope) (account : String) : String :=
  "/" ++ scope.service.word ++ "/" ++ lowercase account ++ "/" ++ scope.path

end Scope

end StorageAccess
