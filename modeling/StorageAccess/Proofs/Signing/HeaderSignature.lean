import StorageAccess.Proofs.Bytes.SignatureText
import StorageAccess.Proofs.Signing.Authorization
import StorageAccess.Proofs.Signing.SignedText
import StorageAccess.Proofs.Web.TargetRoundTrip

/-! A signature in the headers covers the request as it is sent: whoever takes the sent request apart
and signs it again gets the signature that it carries. -/
namespace StorageAccess

namespace HeaderValue

theorem bytes_of_ofText {s : String} {v : HeaderValue} (h : ofText s = .ok v) :
    v.bytes = Utf8.encode s := by
  unfold ofText ofBytes? at h
  split at h
  · rename_i value heq
    split at heq
    · cases heq
      cases h
      rfl
    · cases heq
  · cases h

def isValueChar (c : Char) : Bool := 0x20 ≤ c.toNat && c.toNat != 0x7F

/-- Text without control characters is the value of a header. -/
theorem exists_ofText {s : String} (h : s.toList.all isValueChar = true) :
    ∃ v, ofText s = .ok v := by
  have hbytes : (Utf8.encode s).all isValueByte = true := by
    rw [List.all_eq_true]
    intro b hb
    obtain ⟨c, hc, hm⟩ := List.mem_flatMap.mp hb
    have hlow : b.toNat < 0x80 → c.toNat = b.toNat := Utf8.toNat_eq_of_mem_encodeChar hm
    have hctl := List.all_eq_true.mp h c hc
    simp [isValueChar] at hctl
    simp [isValueByte, UInt8.le_iff_toNat_le, ← UInt8.toNat_inj]
    omega
  rw [ofText, ofBytes?, dif_pos hbytes]
  exact ⟨_, rfl⟩

end HeaderValue

namespace Draft

variable {d : Draft}

/-- Headers play no part in the address. -/
theorem IsAddressable.signed (h : d.IsAddressable) (date value : HeaderValue) :
    (d.signed date value).IsAddressable := ⟨h.path, h.path_ne, h.query_of_star⟩

@[simp] theorem values_withHeader (name other : HeaderName) (value : HeaderValue) :
    (d.withHeader name value).headers.values other =
      if other = name then [value] else d.headers.values other :=
  Headers.values_insert _ _ _ _

/-- The authorization is not among what it covers. -/
theorem stringToSign_withAuthorization (scheme : SharedKeyScheme) (account : String)
    (value : HeaderValue) :
    scheme.stringToSign (d.withHeader .authorization value) account =
      scheme.stringToSign d account := by
  apply SharedKeyScheme.stringToSign_congr
  · rfl
  · intro name hn
    rw [Headers.contents, Headers.contents, values_withHeader, if_neg hn]
  · cases scheme <;> rfl

end Draft

/-- A request whose only authorization header is the signature of the request as it stands. -/
def RequestHead.IsSignedBy (head : RequestHead) (scheme : SharedKeyScheme) (account : String)
    (key : AccountKey) : Prop :=
  ∃ d s value, Draft.ofHead head = .ok d ∧ scheme.stringToSign d account = .ok s ∧
    head.headers.values .authorization = [value] ∧
    value.bytes = Utf8.encode (scheme.word ++ " " ++ account ++ ":" ++ key.sign s)

namespace Authorizer

variable {a : Authorizer} {now : Instant} {head : RequestHead} {account : String} {key : AccountKey}

/-- The address of a draft that got headers can be written. -/
theorem exists_uri_of_byHeaders {d : Draft} (h : d.IsAddressable) (date value : HeaderValue) :
    ∃ uri, (encodeLeading (d.signed date value) d.query.length).uri = .ok uri := by
  obtain ⟨t, hu, -, -⟩ := Draft.uri_encodeLeading (h.signed date value)
  exact ⟨_, hu⟩

/-- What was drafted can be sent wherever there is an address for it. -/
theorem authorize_of_isAddressable {d e : Draft} {c : Credential} {expiresIn : Option Duration}
    (hb : isBearerInQuery c expiresIn = false) (hd : Draft.ofHead head = .ok d)
    (hdrafted : (a.authorizeDraft (a.time.getD now) d expiresIn c).outcome = .ok (e, e.query.length))
    (haddr : e.IsAddressable) : (a.authorize now head (some c) expiresIn).2.outcome = .ok () := by
  obtain ⟨t, hu, -, -⟩ := Draft.uri_encodeLeading haddr
  rw [authorize_eq_finish hb hd]
  exact (finish_of_written (Prod.eta _).symm hdrafted hu).2

/-- With a signature in the headers, the request that was signed can be sent. -/
theorem authorize_of_signHeaders {d e : Draft} (hd : Draft.ofHead head = .ok d)
    (hs : (a.signHeaders d account key (a.time.getD now)).outcome = .ok e) :
    (a.authorize now head (some (.sharedKey account key)) none).2.outcome = .ok () := by
  have hdrafted : (a.authorizeDraft (a.time.getD now) d none (.sharedKey account key)).outcome =
      .ok (e, e.query.length) := Action.bind_outcome_eq_ok.mpr ⟨e, hs, rfl⟩
  obtain ⟨date, s, value, -, -, -, rfl⟩ := signHeaders_eq_ok.mp hs
  exact authorize_of_isAddressable rfl hd hdrafted ((Draft.isAddressable_of_ofHead hd).signed date _)

theorem authorization_ofText (scheme : SharedKeyScheme) (account : String) (key : AccountKey)
    (s : String) (h : account.toList.all HeaderValue.isValueChar = true) :
    ∃ value, HeaderValue.ofText (scheme.word ++ " " ++ account ++ ":" ++ key.sign s) = .ok value := by
  have hword : scheme.word.toList.all HeaderValue.isValueChar = true := by cases scheme <;> decide
  have hsign : (key.sign s).toList.all HeaderValue.isValueChar = true := by
    rw [List.all_eq_true]
    intro c hc
    have hdigit := AccountKey.isDigit_of_mem_sign hc
    unfold Base64.IsDigit at hdigit
    simp [HeaderValue.isValueChar]
    omega
  apply HeaderValue.exists_ofText
  simp only [String.toList_append, List.all_append, hword, h, hsign, Bool.and_true, Bool.true_and]
  decide

/-- A signed request is read as the draft with its signature, unless an empty pair of its query was lost. -/
theorem ofHead_signed {d : Draft} {uri : Uri} {date value : HeaderValue} (hp : ("", "") ∉ head.pairs)
    (hd : Draft.ofHead head = .ok d)
    (hu : (encodeLeading (d.signed date value) d.query.length).uri = .ok uri) :
    Draft.ofHead ⟨(d.signed date value).method, uri, (d.signed date value).headers⟩ =
      .ok (d.signed date value) := by
  have hquery : d.query.filter (· ≠ ("", "")) = d.query := by
    rw [Draft.query_of_ofHead hd]
    exact filter_pairs_eq_self_iff.mpr hp
  refine (Draft.ofHead_encoded ((Draft.isAddressable_of_ofHead hd).signed date value) hu).trans ?_
  change Except.ok { d.signed date value with query := d.query.filter (· ≠ ("", "")) } = _
  rw [hquery]
  rfl

/-- What is signed is what is sent. -/
theorem isSignedBy_authorize {sent : RequestHead} {result : Action Unit}
    (hp : ("", "") ∉ head.pairs)
    (h : a.authorize now head (some (.sharedKey account key)) none = (sent, result))
    (hr : result.outcome = .ok ()) : sent.IsSignedBy a.scheme account key := by
  obtain ⟨c, d, e, count, uri, hc, hd, hdrafted, hu, rfl⟩ := authorize_eq_ok h hr
  cases hc
  obtain ⟨e', hsigned, heq⟩ := Action.bind_outcome_eq_ok.mp hdrafted
  cases heq
  obtain ⟨date, s, value, -, hs, hvalue, rfl⟩ := signHeaders_eq_ok.mp hsigned
  refine ⟨_, s, value.markSensitive, ofHead_signed hp hd hu, ?_, ?_,
    @HeaderValue.bytes_of_ofText _ value hvalue⟩
  · -- the authorization came after the text was put together
    rw [Draft.signed, Draft.stringToSign_withAuthorization]
    exact hs
  · simp [Draft.signed]

/-- A request whose query has a letter outside ASCII and a name without a value. -/
def accentedHead : RequestHead where
  method := ⟨"GET", by decide +kernel⟩
  uri := .absolute .https ⟨"a.b", by decide +kernel, by rfl⟩
    ⟨"/c", some "d=%C3%A9&e", by decide +kernel, by decide +kernel, by decide +kernel⟩
  headers := .empty

theorem isInstant_zero : IsInstant 0 0 := by decide

def startOf1970 : Instant := ⟨0, 0, isInstant_zero⟩

theorem outcome_authorize_accentedHead :
    (authorize ⟨.table, none⟩ startOf1970 accentedHead (some (.sharedKey "a" .threeBytes))
      none).2.outcome = .ok () := by
  obtain ⟨d, date, s, hd, hdate, hs⟩ : ∃ d date s, Draft.ofHead accentedHead = .ok d ∧
      HeaderValue.ofText startOf1970.httpDate = .ok date ∧
      SharedKeyScheme.table.stringToSign (d.withHeader .msDate date) "a" = .ok s :=
    ⟨_, _, _, rfl, rfl, rfl⟩
  obtain ⟨value, hvalue⟩ := authorization_ofText .table "a" .threeBytes s (by decide)
  have hsigned : (signHeaders ⟨.table, none⟩ d "a" .threeBytes startOf1970).outcome = .ok _ :=
    signHeaders_eq_ok.mpr ⟨date, s, value, hdate, hs, hvalue, rfl⟩
  exact authorize_of_signHeaders hd hsigned

theorem isSignedBy_authorize_accentedHead :
    (authorize ⟨.table, none⟩ startOf1970 accentedHead (some (.sharedKey "a" .threeBytes))
      none).1.IsSignedBy .table "a" .threeBytes :=
  isSignedBy_authorize (by decide +kernel) (Prod.eta _).symm outcome_authorize_accentedHead

end Authorizer

end StorageAccess
