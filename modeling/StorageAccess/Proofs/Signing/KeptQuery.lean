import StorageAccess.Proofs.Signing.QuerySignature
import StorageAccess.Proofs.Signing.Resigning

/-! What becomes of the query of a request that is signed. Its pairs are read, written anew and sent, with
those of the signature after them. A pair without name and value is the only kind that is not found
again, although it is signed. -/
namespace StorageAccess

/-- Whoever reads the address of an encoded draft finds its pairs, other than empty ones. -/
theorem Draft.pairs_of_uri {e : Draft} (he : e.IsAddressable) {uri : Uri}
    (hu : (Authorizer.encodeLeading e e.query.length).uri = .ok uri) :
    RequestHead.pairs ⟨e.method, uri, e.headers⟩ = e.query.filter (· ≠ ("", "")) :=
  (Draft.query_of_ofHead (Draft.ofHead_encoded he hu)).symm

namespace Authorizer

variable {a : Authorizer} {now : Instant} {head sent : RequestHead} {c : Credential} {d e : Draft}
variable {expiresIn : Option Duration} {count : Nat}

/-- The pairs that a signature adds: none in the headers, and in the query those of a token for as long as
was asked for. -/
inductive Adds (now : Instant) : Option Duration → Credential → List (String × String) → Prop
  | byHeaders {c : Credential} : Adds now none c []
  | byQuery {account : String} {key : AccountKey} {expiresIn : Duration} {later : Instant}
    {t : SasToken} (hlater : now.add expiresIn = .ok later)
    (ht : (queryGrant account key now later).token.outcome = .ok t) :
    Adds now (some expiresIn) (.sharedKey account key) t.pairs

theorem Adds.filter_eq {added : List (String × String)} (h : Adds now expiresIn c added) :
    added.filter (· ≠ ("", "")) = added := by
  cases h with
  | byHeaders => rfl
  | byQuery hlater ht => exact AccountGrant.filter_pairs_of_token ht

/-- A signed draft has the pairs of the signature after its own, and all of them are to be encoded. -/
theorem adds_of_outcome (hc : c.signsHeaders = true) (hb : isBearerInQuery c expiresIn = false)
    (h : (a.authorizeDraft now d expiresIn c).outcome = .ok (e, count)) :
    ∃ added, Adds now expiresIn c added ∧ e.query = d.query ++ added ∧ count = e.query.length := by
  cases expiresIn with
  | none =>
    obtain ⟨date, value, -, -, rfl, rfl⟩ := exists_signed_of_outcome hc h
    exact ⟨[], .byHeaders, (List.append_nil _).symm, rfl⟩
  | some expiresIn =>
    cases c with
    | sasToken token => cases hc
    | bearer token expires => cases hb
    | sharedKey account key =>
      obtain ⟨e', hs, heq⟩ := Action.bind_outcome_eq_ok.mp h
      obtain ⟨later, t, -, hlater, ht, rfl⟩ := signQuery_eq_ok.mp hs
      cases heq
      exact ⟨t.pairs, .byQuery hlater ht, rfl, rfl⟩

/-- A signed draft that is written at all can be read from its address. -/
theorem isAddressable_of_authorized (hd : d.IsAddressable) (h : Authorized d e count) {uri : Uri}
    (hu : (encodeLeading e e.query.length).uri = .ok uri) : e.IsAddressable := by
  have hpath : e.path = d.path := by cases h <;> rfl
  refine ⟨hpath ▸ hd.path, hpath ▸ hd.path_ne, fun hstar => ?_⟩
  exact Decidable.byContradiction fun hq => Draft.path_ne_star_of_uri hq hu hstar

theorem isBearerInQuery_of_outcome
    (h : (a.authorize now head (some c) expiresIn).2.outcome = .ok ()) :
    isBearerInQuery c expiresIn = false := by
  cases hb : isBearerInQuery c expiresIn with
  | false => rfl
  | true =>
    simp only [authorize, hb, if_true] at h
    cases h

/-- A signed request has the pairs of the request, in their order and without empty ones, and then those
of the signature. So all of its pairs are there exactly if it had no empty one. -/
theorem pairs_of_authorize {result : Action Unit} (hc : c.signsHeaders = true)
    (h : a.authorize now head (some c) expiresIn = (sent, result)) (hr : result.outcome = .ok ()) :
    ∃ added, Adds (a.time.getD now) expiresIn c added ∧
      sent.pairs = head.pairs.filter (· ≠ ("", "")) ++ added ∧
      (sent.pairs = head.pairs ++ added ↔ ("", "") ∉ head.pairs) := by
  have hb : isBearerInQuery c expiresIn = false :=
    isBearerInQuery_of_outcome ((congrArg (·.2.outcome) h).trans hr)
  obtain ⟨_, d, e, count, uri, hsome, hd, hdrafted, hu, rfl⟩ := authorize_eq_ok h hr
  cases hsome
  obtain ⟨added, hadds, hquery, rfl⟩ := adds_of_outcome hc hb hdrafted
  have haddr : e.IsAddressable := isAddressable_of_authorized (Draft.isAddressable_of_ofHead hd)
    (authorized_of_outcome hdrafted) hu
  have hpairs : RequestHead.pairs ⟨e.method, uri, e.headers⟩ =
      head.pairs.filter (· ≠ ("", "")) ++ added := by
    rw [Draft.pairs_of_uri haddr hu, hquery, List.filter_append, hadds.filter_eq,
      Draft.query_of_ofHead hd]
  refine ⟨added, hadds, hpairs, ?_⟩
  rw [hpairs, List.append_cancel_right_eq]
  exact filter_pairs_eq_self_iff

theorem pairs_of_authorize_accentedHead : ∃ added,
    Adds startOf1970 (some oneSecond) (.sharedKey "a" .threeBytes) added ∧
      (authorize ⟨.full, none⟩ startOf1970 accentedHead (some (.sharedKey "a" .threeBytes))
        (some oneSecond)).1.pairs = accentedHead.pairs.filter (· ≠ ("", "")) ++ added ∧
      ((authorize ⟨.full, none⟩ startOf1970 accentedHead (some (.sharedKey "a" .threeBytes))
        (some oneSecond)).1.pairs = accentedHead.pairs ++ added ↔ ("", "") ∉ accentedHead.pairs) :=
  pairs_of_authorize rfl (Prod.eta _).symm outcome_authorize_inQuery

/-- A request with an empty pair between two others. -/
def gappedHead : RequestHead where
  method := accentedHead.method
  uri := .absolute .http ⟨"h", by decide +kernel, by rfl⟩
    ⟨"/p", some "a=1&=&b=2", by decide +kernel, by decide +kernel, by decide +kernel⟩
  headers := .empty

/-- The empty pair is lost. -/
theorem pairs_gappedHead : ∃ sent result,
    authorize {} startOf1970 gappedHead (some (.bearer "t" none)) none = (sent, result) ∧
      result.outcome = .ok () ∧ gappedHead.pairs = [("a", "1"), ("", ""), ("b", "2")] ∧
      sent.uri.text = "http://h/p?a=1&&b=2" ∧ sent.pairs = [("a", "1"), ("b", "2")] :=
  ⟨_, _, rfl, rfl, rfl, rfl, rfl⟩

end Authorizer

end StorageAccess
