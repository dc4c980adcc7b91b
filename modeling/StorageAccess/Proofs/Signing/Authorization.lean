import StorageAccess.Proofs.Outcome
import StorageAccess.Signing.Authorizer

/-! How authorising ends. A request is refused as it is, or it is taken apart into a draft; the draft
gets two headers or more pairs in its query, or it fails; and only what was drafted is written. -/
namespace StorageAccess

def Draft.withHeader (d : Draft) (name : HeaderName) (value : HeaderValue) : Draft :=
  { d with headers := d.headers.insert name value }

/-- The draft with both headers of a signature. -/
def Draft.signed (d : Draft) (date value : HeaderValue) : Draft :=
  (d.withHeader .msDate date).withHeader .authorization value

namespace Authorizer

variable {a : Authorizer} {now : Instant} {d e : Draft} {count : Nat} {account : String}
variable {key : AccountKey} {expiresIn : Option Duration} {credential : Option Credential}
variable {head : RequestHead}

theorem dated_eq_ok : dated d now = .ok e ↔
    ∃ date, HeaderValue.ofText now.httpDate = .ok date ∧ e = d.withHeader .msDate date := by
  simp only [dated, bind_eq_ok, pure_eq_ok, Draft.withHeader]

theorem authorizedBy_eq_ok {text : String} : authorizedBy d text = .ok e ↔
    ∃ value, HeaderValue.ofText text = .ok value ∧
      e = d.withHeader .authorization value.markSensitive := by
  simp only [authorizedBy, bind_eq_ok, pure_eq_ok, Draft.withHeader]

theorem loggedStringToSign_eq_ok {scheme : SharedKeyScheme} {s : String} :
    (scheme.loggedStringToSign d account).outcome = .ok s ↔
      scheme.stringToSign d account = .ok s := by
  simp [SharedKeyScheme.loggedStringToSign, bind_eq_ok, Action.outcome_ofExcept_eq_ok]

/-- A draft is signed once its date is in place and before its authorization is. -/
theorem signHeaders_eq_ok : (a.signHeaders d account key now).outcome = .ok e ↔
    ∃ date s value, HeaderValue.ofText now.httpDate = .ok date ∧
      a.scheme.stringToSign (d.withHeader .msDate date) account = .ok s ∧
      HeaderValue.ofText (a.scheme.word ++ " " ++ account ++ ":" ++ key.sign s) = .ok value ∧
      e = d.signed date value.markSensitive := by
  simp only [signHeaders, Action.bind_outcome_eq_ok, Action.outcome_ofExcept_eq_ok, dated_eq_ok,
    authorizedBy_eq_ok, loggedStringToSign_eq_ok]
  constructor
  · rintro ⟨_, ⟨date, hdate, rfl⟩, s, hs, value, hvalue, he⟩
    exact ⟨date, s, value, hdate, hs, hvalue, he⟩
  · rintro ⟨date, s, value, hdate, hs, hvalue, he⟩
    exact ⟨_, ⟨date, hdate, rfl⟩, s, hs, value, hvalue, he⟩

/-- What becomes of a draft, and how many of its pairs are still to be encoded. -/
inductive Authorized (d : Draft) : Draft → Nat → Prop
  | byHeaders (date value : HeaderValue) :
    Authorized d (d.signed date value) d.query.length
  | byQuery (pairs : List (String × String)) (count : Nat) :
    Authorized d { d with query := d.query ++ pairs } count

theorem authorized_of_outcome {c : Credential}
    (h : (a.authorizeDraft now d expiresIn c).outcome = .ok (e, count)) : Authorized d e count := by
  cases c with
  | sasToken token =>
    cases h
    exact .byQuery [(token, "")] _
  | bearer token expires =>
    simp only [authorizeDraft, Action.bind_outcome_eq_ok, Action.outcome_ofExcept_eq_ok, dated_eq_ok,
      authorizedBy_eq_ok] at h
    obtain ⟨_, ⟨date, -, rfl⟩, _, ⟨value, -, rfl⟩, h⟩ := h
    cases h
    exact .byHeaders date value.markSensitive
  | sharedKey account key =>
    cases expiresIn with
    | none =>
      obtain ⟨e', hs, h⟩ := Action.bind_outcome_eq_ok.mp h
      obtain ⟨date, s, value, -, -, -, rfl⟩ := signHeaders_eq_ok.mp hs
      cases h
      exact .byHeaders date value.markSensitive
    | some expiresIn =>
      obtain ⟨e', hs, h⟩ := Action.bind_outcome_eq_ok.mp h
      simp only [signQuery, Action.bind_outcome_eq_ok] at hs
      obtain ⟨expiry, -, token, -, hs⟩ := hs
      cases hs
      cases h
      exact .byQuery token.pairs _

theorem authorize_eq_finish {c : Credential} (hb : isBearerInQuery c expiresIn = false)
    (hd : Draft.ofHead head = .ok d) :
    a.authorize now head (some c) expiresIn =
      finish head (a.authorizeDraft (a.time.getD now) d expiresIn c) := by
  simp [authorize, hb, hd]

/-- A request that is not taken apart stays as it is. -/
theorem authorize_cases (a : Authorizer) (now : Instant) (head : RequestHead)
    (credential : Option Credential) (expiresIn : Option Duration) :
    (∃ error, a.authorize now head credential expiresIn = (head, Action.fail error)) ∨
      ∃ c d, credential = some c ∧ isBearerInQuery c expiresIn = false ∧
        Draft.ofHead head = .ok d ∧ a.authorize now head credential expiresIn =
          finish head (a.authorizeDraft (a.time.getD now) d expiresIn c) := by
  cases credential with
  | none => exact .inl ⟨AuthorizationDefect.credentialMissing, rfl⟩
  | some c =>
    cases hb : isBearerInQuery c expiresIn with
    | true => exact .inl ⟨AuthorizationDefect.bearerInQuery, by simp [authorize, hb]⟩
    | false =>
      cases hd : Draft.ofHead head with
      | error error => exact .inl ⟨error, by simp [authorize, hb, hd]⟩
      | ok d => exact .inr ⟨c, d, rfl, hb, rfl, authorize_eq_finish hb hd⟩

section finish

variable {drafted : Action (Draft × Nat)} {left : RequestHead} {result : Action Unit}

theorem finish_of_error {halt : Halt} (h : finish head drafted = (left, result))
    (hd : drafted.outcome = .error halt) :
    left = { head with headers := restoredDate head.headers } ∧ result.outcome = .error halt := by
  simp only [finish, hd] at h
  cases h
  rw [Action.outcome_bind, hd]
  exact ⟨rfl, rfl⟩

theorem finish_of_unwritten {error : Error} (h : finish head drafted = (left, result))
    (hd : drafted.outcome = .ok (e, count)) (hu : (encodeLeading e count).uri = .error error) :
    left = { head with headers := e.headers } ∧ result.outcome = .error (.error error) := by
  simp only [finish, hd, Draft.applyTo, hu] at h
  cases h
  rw [Action.outcome_bind, hd]
  exact ⟨rfl, rfl⟩

theorem finish_of_written {uri : Uri} (h : finish head drafted = (left, result))
    (hd : drafted.outcome = .ok (e, count)) (hu : (encodeLeading e count).uri = .ok uri) :
    left = ⟨e.method, uri, e.headers⟩ ∧ result.outcome = .ok () := by
  simp only [finish, hd, Draft.applyTo, hu] at h
  cases h
  rw [Action.outcome_bind, hd]
  exact ⟨rfl, rfl⟩

/-- What success means: there was a draft, and an address could be written for it. -/
theorem authorize_eq_ok (h : a.authorize now head credential expiresIn = (left, result))
    (hr : result.outcome = .ok ()) :
    ∃ c d e count uri, credential = some c ∧ Draft.ofHead head = .ok d ∧
      (a.authorizeDraft (a.time.getD now) d expiresIn c).outcome = .ok (e, count) ∧
      (encodeLeading e count).uri = .ok uri ∧ left = ⟨e.method, uri, e.headers⟩ := by
  obtain ⟨error, heq⟩ | ⟨c, d, hc, -, hd, heq⟩ := a.authorize_cases now head credential expiresIn
  · cases h.symm.trans heq
    cases hr
  · replace h := heq.symm.trans h
    cases hdrafted : (a.authorizeDraft (a.time.getD now) d expiresIn c).outcome with
    | error halt => cases hr.symm.trans (finish_of_error h hdrafted).2
    | ok drafted =>
      obtain ⟨e, count⟩ := drafted
      cases hu : (encodeLeading e count).uri with
      | error error => cases hr.symm.trans (finish_of_unwritten h hdrafted hu).2
      | ok uri =>
        have hleft := (finish_of_written h hdrafted hu).1
        exact ⟨c, d, e, count, uri, hc, hd, hdrafted, hu, hleft⟩

end finish

end Authorizer

end StorageAccess
