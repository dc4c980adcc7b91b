import StorageAccess.AccountKey
import StorageAccess.Sas.Token
import StorageAccess.Time.Text

/-! What requests are authorised with. -/
namespace StorageAccess

inductive Credential
  | sharedKey (account : String) (key : AccountKey)
  /-- A shared access signature issued earlier, in its written form. -/
  | sasToken (token : String)
  /-- A token issued earlier, with the end of its life. -/
  | bearer (token : String) (expires : Option Instant)
  deriving DecidableEq

namespace Credential

def ofSharedKey (account key : String) : Except Error Credential :=
  (AccountKey.ofText key).map (sharedKey account)

/-- Question marks before a token are not part of it. -/
def ofSasToken (token : String) : Credential := sasToken (SasToken.withoutLeadingMarks token)

/-- A bearer token is used until 20 seconds before it expires, so that it does not expire on the way. -/
def outlives (expires now : Instant) : Bool :=
  match now.add? (Duration.ofSeconds 20) with
  | some margin => margin.before expires
  | none => false

/-- Whether nothing is missing and nothing has expired. -/
def isValid (now : Instant) : Credential → Bool
  | .sharedKey account key => account != "" && !key.bytes.isEmpty
  | .sasToken token => token != ""
  | .bearer token expires =>
    token != "" && match expires with
      | some expires => outlives expires now
      | none => true

def isUsable (now : Instant) : Option Credential → Bool
  | some c => c.isValid now
  | none => false

def describeExpiry : Option Instant → String
  | some t => "Some(" ++ t.exactText ++ ")"
  | none => "None"

/-- The credential without its secrets. -/
def describe : Credential → String
  | .sharedKey account key =>
    "Credential::SharedKey \x7b account_name: " ++ Quoted.text account ++ ", account_key: "
      ++ key.describe ++ " \x7d"
  | .sasToken token => "Credential::SasToken \x7b token: " ++ redacted token ++ " \x7d"
  | .bearer token expires =>
    "Credential::BearerToken \x7b token: " ++ redacted token ++ ", expires_in: "
      ++ describeExpiry expires ++ " \x7d"

end Credential

end StorageAccess
