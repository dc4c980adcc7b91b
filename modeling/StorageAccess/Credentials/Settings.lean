import StorageAccess.Credentials.Credential
import StorageAccess.Environment

/-! Settings that describe a credential. What is not set is looked up in the environment, and of several
credentials that are described the strongest counts. -/
namespace StorageAccess

structure Settings where
  accountName : Option String := none
  accountKey : Option String := none
  sasToken : Option String := none
  bearerToken : Option String := none
  deriving DecidableEq

namespace Settings

def accountNameVariable : String := "AZURE_STORAGE_ACCOUNT_NAME"
def accountKeyVariable : String := "AZURE_STORAGE_ACCOUNT_KEY"
def sasTokenVariable : String := "AZURE_STORAGE_SAS_TOKEN"
def bearerTokenVariable : String := "AZURE_STORAGE_BEARER_TOKEN"

/-- Second names of variables, looked up after the first. -/
def accountNameAlias : String := "AZBLOB_ACCOUNT_NAME"
def accountKeyAlias : String := "AZBLOB_ACCOUNT_KEY"

/-- Fills in from the environment what is not set. -/
def orElse (s : Settings) (env : Environment) : Settings :=
  { accountName := s.accountName <|> env.first? [accountNameVariable, accountNameAlias]
    accountKey := s.accountKey <|> env.first? [accountKeyVariable, accountKeyAlias]
    sasToken := s.sasToken <|> env.get? sasTokenVariable
    bearerToken := s.bearerToken <|> env.get? bearerTokenVariable }

/-- The described credential: an account key before a shared access signature before a bearer token.
A key without a name is no description. -/
def credential (s : Settings) : Except Error (Option Credential) :=
  match s.accountName, s.accountKey with
  | some name, some key => (Credential.ofSharedKey name key).map some
  | none, some _ =>
    .error ⟨.configInvalid, "account key is configured without account name", none⟩
  | _, none =>
    match s.sasToken, s.bearerToken with
    | some token, _ => .ok (some (.ofSasToken token))
    | none, some token => .ok (some (.bearer token none))
    | none, none => .ok none

/-- The settings without their secrets. -/
def describe (s : Settings) : String :=
  "Config \x7b account_name: " ++ Quoted.optional s.accountName ++ ", account_key: "
    ++ redacted (s.accountKey.getD "") ++ ", sas_token: " ++ redacted (s.sasToken.getD "")
    ++ ", bearer_token: " ++ redacted (s.bearerToken.getD "") ++ " \x7d"

end Settings

end StorageAccess
