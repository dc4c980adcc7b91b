import StorageAccess.Credentials.Provider
import StorageAccess.Signing.Authorizer

/-! Signers share one credential: whichever of them loads or replaces it, all of them use it from then
on. -/
namespace StorageAccess

/-- What does not change while signers are in use. -/
structure SignerSetup where
  provider : Provider
  authorizer : Authorizer

/-- What signers share. -/
structure Signers where
  environment : Environment
  /-- The credential in use. -/
  cell : Option Credential := none
  /-- How often the provider was asked. -/
  loads : Nat := 0
  count : Nat := 1

namespace Signers

def clone (s : Signers) : Signers := { s with count := s.count + 1 }

def invalidRotation : Error :=
  ⟨.credentialInvalid, "refusing to rotate in an invalid credential", none⟩

/-- Replaces the credential by another valid one. -/
def rotate (s : Signers) (now : Instant) (c : Credential) : Signers × Action Unit :=
  if c.isValid now then
    ({ s with cell := some c }, Action.debug "signing credential rotated")
  else (s, Action.fail invalidRotation)

/-- The credential in use, after loading one if there is none or it is no longer valid. -/
def credential (setup : SignerSetup) (s : Signers) (now : Instant) :
    Signers × Action (Option Credential) :=
  if Credential.isUsable now s.cell then (s, pure s.cell)
  else
    let load := do
      let loaded ← setup.provider.load s.environment s.loads
      Action.debug ("signing credential loaded: " ++ if loaded.isSome then "true" else "false")
      return loaded
    let cell := match load.outcome with
      | .ok loaded => loaded
      | .error _ => s.cell
    ({ s with cell, loads := s.loads + 1 }, load)

/-- Authorises a request with the credential in use. -/
def sign (setup : SignerSetup) (s : Signers) (now : Instant) (head : RequestHead)
    (expiresIn : Option Duration) : Signers × RequestHead × Action Unit :=
  let (s, credential) := credential setup s now
  match credential.outcome with
  | .error _ => (s, head, credential >>= fun _ => pure ())
  | .ok c =>
    let (head, result) := setup.authorizer.authorize now head c expiresIn
    (s, head, credential >>= fun _ => result)

end Signers

/-- Signers that take their credential from the environment. -/
def SignerSetup.standard : SignerSetup := ⟨.environment, {}⟩

end StorageAccess
