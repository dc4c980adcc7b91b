import StorageAccess.Sas.CodeSet

/-! What shared access can allow: operations, and the services and kinds of resources that they are
allowed on. -/
namespace StorageAccess

inductive Permission
  | read
  | add
  | create
  | write
  | delete
  | list
  | update
  | process
  deriving DecidableEq

instance : Coded Permission where
  setName := "Permissions"
  all := [.read, .add, .create, .write, .delete, .list, .update, .process]
  letter
    | .read => 'r'
    | .add => 'a'
    | .create => 'c'
    | .write => 'w'
    | .delete => 'd'
    | .list => 'l'
    | .update => 'u'
    | .process => 'p'
  mem_all x := by cases x <;> simp
  nodup_all := by decide
  letter_injective x y := by cases x <;> cases y <;> simp

inductive Service
  | blob
  | queue
  | table
  | file
  deriving DecidableEq

instance : Coded Service where
  setName := "Services"
  all := [.blob, .queue, .table, .file]
  letter
    | .blob => 'b'
    | .queue => 'q'
    | .table => 't'
    | .file => 'f'
  mem_all x := by cases x <;> simp
  nodup_all := by decide
  letter_injective x y := by cases x <;> cases y <;> simp

/-- The level at which requests act. -/
inductive ResourceType
  | service
  | container
  | object
  deriving DecidableEq

instance : Coded ResourceType where
  setName := "ResourceTypes"
  all := [.service, .container, .object]
  letter
    | .service => 's'
    | .container => 'c'
    | .object => 'o'
  mem_all x := by cases x <;> simp
  nodup_all := by decide
  letter_injective x y := by cases x <;> cases y <;> simp

namespace Service

def word : Service → String
  | .blob => "blob"
  | .queue => "queue"
  | .table => "table"
  | .file => "file"

end Service

end StorageAccess
