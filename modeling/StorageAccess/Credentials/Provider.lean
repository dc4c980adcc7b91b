import StorageAccess.Action
import StorageAccess.Credentials.Settings

/-! Where credentials come from. -/
namespace StorageAccess

/-- Loads a credential from an environment. It is told how often it was asked before. -/
structure Provider where
  load : Environment → Nat → Action (Option Credential)

namespace Provider

def environment : Provider where
  load env _ := do
    let settings := ({} : Settings).orElse env
    Action.debug ("loaded azure storage config from env: " ++ settings.describe)
    Action.ofExcept settings.credential

def fixed (c : Credential) : Provider := ⟨fun _ _ => pure (some c)⟩

/-- One result after the other, and nothing after the last. -/
def scripted (results : List (Except Error (Option Credential))) : Provider :=
  ⟨fun _ n => Action.ofExcept (results.getD n (.ok none))⟩

end Provider

end StorageAccess
