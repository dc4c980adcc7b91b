import StorageAccess.Proofs.Signing.FailedSigning
import StorageAccess.Proofs.Signing.KeptQuery

/-! What a request that was signed has in common with the one that was given. It goes to the same place,
and unless it carries its signature in the headers, these are the same as well. -/
namespace StorageAccess

namespace RequestHead

/-- The same method, server and path. An address without a scheme has got that of plain HTTP. -/
structure GoesWhere (sent head : RequestHead) : Prop where
  method : sent.method = head.method
  scheme : sent.uri.scheme? = some (head.uri.scheme?.getD .http)
  authority : sent.uri.authority? = head.uri.authority?
  path : sent.uri.target?.map PathAndQuery.path = some head.path

/-- The same headers but for the date and the authorization, of which there is one each. -/
def IsStamped (sent head : RequestHead) (time : Instant) : Prop :=
  ∃ date value, HeaderValue.ofText time.httpDate = .ok date ∧ value.sensitive = true ∧
    ∀ name, sent.headers.values name =
      if name = .authorization then [value]
      else if name = .msDate then [date]
      else head.headers.values name

end RequestHead

namespace Authorizer

variable {a : Authorizer} {now : Instant} {head sent : RequestHead} {d e : Draft} {c : Credential}
variable {credential : Option Credential} {expiresIn : Option Duration} {count : Nat}

/-- Whatever was added to a draft, it is sent where it came from. -/
theorem goesWhere_of_authorized (hd : Draft.ofHead head = .ok d) (h : Authorized d e count) {uri : Uri}
    (hu : (encodeLeading e count).uri = .ok uri) :
    RequestHead.GoesWhere ⟨e.method, uri, e.headers⟩ head := by
  have hkept : e.method = d.method ∧ e.scheme = d.scheme ∧ e.authority = d.authority ∧
      e.path = d.path := by cases h <;> exact ⟨rfl, rfl, rfl, rfl⟩
  obtain ⟨hmethod, hscheme, hserver, hsame⟩ := hkept
  have haddr := Draft.isAddressable_of_ofHead hd
  obtain ⟨t, rfl, hpath⟩ := Draft.exists_target_of_uri (d := encodeLeading e count)
    (hsame ▸ haddr.path) (hsame ▸ haddr.path_ne) hu
  obtain ⟨authority, hauthority, rfl⟩ := Draft.ofHead_eq_ok.mp hd
  refine ⟨hmethod, congrArg some hscheme, ?_, congrArg some (hpath.trans hsame)⟩
  rw [hauthority]
  exact congrArg some hserver

/-- A token and a signature in the query leave the headers alone. -/
theorem headers_of_outcome (hc : (c.signsHeaders && expiresIn.isNone) = false)
    (hb : isBearerInQuery c expiresIn = false)
    (h : (a.authorizeDraft now d expiresIn c).outcome = .ok (e, count)) : e.headers = d.headers := by
  cases c with
  | sasToken token =>
    cases h
    rfl
  | bearer token expires =>
    cases expiresIn with
    | none => cases hc
    | some expiresIn => cases hb
  | sharedKey account key =>
    cases expiresIn with
    | none => cases hc
    | some expiresIn =>
      obtain ⟨e', hs, heq⟩ := Action.bind_outcome_eq_ok.mp h
      obtain ⟨later, t, -, -, -, rfl⟩ := signQuery_eq_ok.mp hs
      cases heq
      rfl

theorem isStamped_signed {uri : Uri} {date value : HeaderValue}
    (hd : Draft.ofHead head = .ok d) (hdate : HeaderValue.ofText now.httpDate = .ok date)
    (hvalue : value.sensitive = true) :
    RequestHead.IsStamped ⟨(d.signed date value).method, uri, (d.signed date value).headers⟩ head
      now := by
  refine ⟨date, value, hdate, hvalue, fun name => ?_⟩
  rw [← headers_of_ofHead hd]
  simp only [Draft.signed, Draft.values_withHeader]

/-- A signed request is sent where the given one was to go, with the headers that it had. Only a signature
in the headers replaces two of these. -/
theorem goesWhere_of_authorize {result : Action Unit}
    (h : a.authorize now head credential expiresIn = (sent, result)) (hr : result.outcome = .ok ()) :
    ∃ c, credential = some c ∧ sent.GoesWhere head ∧
      if c.signsHeaders && expiresIn.isNone then sent.IsStamped head (a.time.getD now)
      else sent.headers = head.headers := by
  obtain ⟨c, d, e, count, uri, rfl, hd, hdrafted, hu, rfl⟩ := authorize_eq_ok h hr
  have hb : isBearerInQuery c expiresIn = false :=
    isBearerInQuery_of_outcome ((congrArg (·.2.outcome) h).trans hr)
  refine ⟨c, rfl, goesWhere_of_authorized hd (authorized_of_outcome hdrafted) hu, ?_⟩
  split
  · rename_i hc
    rw [Bool.and_eq_true, Option.isNone_iff_eq_none] at hc
    obtain ⟨hc, rfl⟩ := hc
    obtain ⟨date, value, hdate, hvalue, rfl, -⟩ := exists_signed_of_outcome hc hdrafted
    exact isStamped_signed hd hdate hvalue
  · rename_i hc
    exact (headers_of_outcome (Bool.not_eq_true _ ▸ hc) hb hdrafted).trans (headers_of_ofHead hd)

theorem outcome_authorize_twiceDatedHead :
    (authorize {} startOf1970 twiceDatedHead (some (.bearer "t" none)) none).2.outcome = .ok () := rfl

/-- Both dates give way to one. -/
theorem goesWhere_of_authorize_twiceDatedHead :
    let sent := (authorize {} startOf1970 twiceDatedHead (some (.bearer "t" none)) none).1
    sent.GoesWhere twiceDatedHead ∧ sent.IsStamped twiceDatedHead startOf1970 := by
  obtain ⟨c, hc, hgoes, hheaders⟩ :=
    goesWhere_of_authorize (Prod.eta _).symm outcome_authorize_twiceDatedHead
  cases hc
  exact ⟨hgoes, hheaders⟩

end Authorizer

end StorageAccess
