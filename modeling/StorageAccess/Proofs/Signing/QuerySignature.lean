import StorageAccess.Proofs.Sas.IssuedToken
import StorageAccess.Proofs.Signing.HeaderSignature

/-! A signature in the query is read from the address that is sent. The fields of the grant come after
the pairs of the caller, are encoded like them, and are read as a form; as long as the caller uses none
of their names, whoever reads the query finds a token that is verified with the key. -/
namespace StorageAccess

namespace Instant

theorem iso8601_ne_empty (t : Instant) : t.iso8601 ≠ "" := by
  intro h
  have hl := congrArg String.toList h
  simp [iso8601] at hl

end Instant

namespace SasToken

variable {t u : SasToken}

/-- An encoded query is read as the token of the pairs with anything in them. -/
theorem ofText_encodedQuery {query : List (String × String)} (h : query.filter (· ≠ ("", "")) ≠ []) :
    ofText (Draft.encodedQuery query) = .ok ⟨query.filter (· ≠ ("", ""))⟩ := by
  have hread := Draft.decode_encodedQuery query
  have hmark : '?' ∉ (Draft.encodedQuery query).toList := fun hm =>
    (Draft.isQueryChar_of_mem_encodedQuery hm).2 rfl
  have htoken := ofText_append 0 hmark (hread.symm ▸ h)
  rw [hread] at htoken
  exact htoken

/-- Pairs of other names do not hide a field that comes after them. -/
theorem get?_append_of_forall_ne {front back : List (String × String)} {name : String}
    (h : ∀ p ∈ front, p.1 ≠ name) : get? ⟨front ++ back⟩ name = get? ⟨back⟩ name := by
  have hnone : front.find? (·.1 == name) = none :=
    List.find?_eq_none.mpr fun p hp he => h p hp (beq_iff_eq.mp he)
  rw [get?, get?, List.find?_append, hnone, Option.none_or]

/-- What is signed for an account depends on the fields of a grant only. -/
theorem accountStringToSign_congr (h : ∀ name ∈ AccountGrant.fieldNames, t.get? name = u.get? name)
    (account : String) : t.accountStringToSign account = u.accountStringToSign account := by
  have hsub : ["sp", "ss", "srt", "st", "se", "sip", "spr", "sv"] ⊆ AccountGrant.fieldNames := by
    decide
  have hfields : ["sp", "ss", "srt", "st", "se", "sip", "spr", "sv"].map t.field =
      ["sp", "ss", "srt", "st", "se", "sip", "spr", "sv"].map u.field :=
    List.map_congr_left fun name hn => by rw [field, field, h name (hsub hn)]
  rw [accountStringToSign, accountStringToSign, hfields]

/-- A token that allows access to an account from one time to another, and proves it. -/
structure Grants (t : SasToken) (account : String) (key : AccountKey) (start expiry : Instant) :
    Prop where
  start : t.get? "st" = some start.iso8601
  expiry : t.get? "se" = some expiry.iso8601
  verified : t.signature? = some (key.sign (t.accountStringToSign account))

variable {account : String} {key : AccountKey} {start expiry : Instant}

theorem Grants.pairs_ne_nil (h : t.Grants account key start expiry) : t.pairs ≠ [] := by
  intro hnil
  have hst := h.start
  rw [get?, hnil] at hst
  cases hst

/-- Whatever is put before a token, it grants the same if no name of its own comes up there. -/
theorem Grants.append {pairs : List (String × String)} (h : t.Grants account key start expiry)
    (hp : ∀ p ∈ pairs, p.1 ∉ "sig" :: AccountGrant.fieldNames) :
    Grants ⟨pairs ++ t.pairs⟩ account key start expiry := by
  have hget : ∀ name ∈ "sig" :: AccountGrant.fieldNames,
      get? ⟨pairs ++ t.pairs⟩ name = t.get? name := by
    intro name hn
    refine get?_append_of_forall_ne fun p hm he => hp p hm ?_
    rw [he]
    exact hn
  have hsigned : accountStringToSign ⟨pairs ++ t.pairs⟩ account = t.accountStringToSign account :=
    accountStringToSign_congr (fun name hn => hget name (List.mem_cons_of_mem _ hn)) account
  refine ⟨?_, ?_, ?_⟩
  · rw [hget "st" (by decide), h.start]
  · rw [hget "se" (by decide), h.expiry]
  · rw [signature?, hget "sig" (by decide), hsigned]
    exact h.verified

end SasToken

namespace AccountGrant

variable {g : AccountGrant} {u : SasToken} {start expiry : Instant}

/-- The times of a grant are among its fields. -/
theorem times_of_unsigned (hu : g.unsigned = .ok u) (hs : g.policy.start = some start)
    (he : g.policy.expiry = some expiry) :
    u.get? "st" = some start.iso8601 ∧ u.get? "se" = some expiry.iso8601 := by
  obtain ⟨permissions, -, rfl⟩ := exists_fields_of_unsigned hu
  have hd : ((g.fields permissions).map (·.1)).Nodup := (by decide : fieldNames.Nodup)
  have hstart : ("st", start.iso8601) ∈ g.fields permissions := by simp [fields, hs]
  have hexpiry : ("se", expiry.iso8601) ∈ g.fields permissions := by simp [fields, he]
  rw [SasToken.get?_foldl_push hd hstart, SasToken.get?_foldl_push hd hexpiry]
  exact ⟨if_neg start.iso8601_ne_empty, if_neg expiry.iso8601_ne_empty⟩

theorem isIssued_push_sig (hu : g.unsigned = .ok u) :
    (u.push "sig" (g.key.sign (u.accountStringToSign g.account))).IsIssued
      (SasToken.accountStringToSign · g.account) (u.accountStringToSign g.account) g.key :=
  (isUnsigned_unsigned hu).isIssued (SasToken.accountStringToSign · g.account) g.key
    fun value => u.accountStringToSign_push_sig value g.account

/-- A token that is issued to an account grants access between the times of its policy. -/
theorem grants_of_token {t : SasToken} (ht : g.token.outcome = .ok t)
    (hs : g.policy.start = some start) (he : g.policy.expiry = some expiry) :
    t.Grants g.account g.key start expiry := by
  obtain ⟨u, hu, rfl⟩ := token_eq_ok.mp ht
  have hissued := isIssued_push_sig hu
  obtain ⟨hst, hse⟩ := times_of_unsigned hu hs he
  refine ⟨?_, ?_, ?_⟩
  · rw [SasToken.get?_push_of_ne (by decide), hst]
  · rw [SasToken.get?_push_of_ne (by decide), hse]
  · rw [hissued.signature, hissued.signed]

/-- No pair of a token is empty, so none is lost on the way. -/
theorem filter_pairs_of_token {t : SasToken} (ht : g.token.outcome = .ok t) :
    t.pairs.filter (· ≠ ("", "")) = t.pairs := by
  obtain ⟨u, hu, rfl⟩ := token_eq_ok.mp ht
  exact filter_pairs_eq_self_iff.mpr fun hm => (isIssued_push_sig hu).nonempty _ hm rfl

end AccountGrant

/-- A request with a token in its query that grants access to an account between two times. -/
def RequestHead.CarriesGrant (head : RequestHead) (account : String) (key : AccountKey)
    (start expiry : Instant) : Prop :=
  ∃ query t, head.uri.target?.bind PathAndQuery.query = some query ∧ SasToken.ofText query = .ok t ∧
    t.Grants account key start expiry

namespace Authorizer

variable {a : Authorizer} {now : Instant} {head : RequestHead} {d e : Draft} {account : String}
variable {key : AccountKey} {expiresIn : Duration}

theorem expiry_eq_ok {later : Instant} : (expiry now expiresIn).outcome = .ok later ↔
    expiresIn.nanoseconds ≤ longestExpiry ∧ now.add expiresIn = .ok later := by
  unfold expiry
  by_cases hn : expiresIn.nanoseconds ≤ longestExpiry
  · rw [if_pos hn, Action.outcome_ofFault_eq_ok, and_iff_right hn]
  · rw [if_neg hn]
    exact ⟨nofun, fun h => absurd h.1 hn⟩

/-- The query of a signed draft ends with a token for the time from now on. -/
theorem signQuery_eq_ok : (signQuery d account key now expiresIn).outcome = .ok e ↔
    ∃ later t, expiresIn.nanoseconds ≤ longestExpiry ∧ now.add expiresIn = .ok later ∧
      (queryGrant account key now later).token.outcome = .ok t ∧
      e = { d with query := d.query ++ t.pairs } := by
  simp only [signQuery, Action.bind_outcome_eq_ok, expiry_eq_ok]
  constructor
  · rintro ⟨later, ⟨hn, hlater⟩, t, ht, he⟩
    cases he
    exact ⟨later, t, hn, hlater, ht, rfl⟩
  · rintro ⟨later, t, hn, hlater, ht, rfl⟩
    exact ⟨later, ⟨hn, hlater⟩, t, ht, rfl⟩

/-- A signed draft can be put into an address wherever pairs can be added. -/
theorem isAddressable_of_signQuery (hd : d.IsAddressable)
    (h : (signQuery d account key now expiresIn).outcome = .ok e) (hpath : e.path ≠ "*") :
    e.IsAddressable := by
  obtain ⟨later, t, -, -, -, rfl⟩ := signQuery_eq_ok.mp h
  exact ⟨hd.path, hd.path_ne, fun hs => absurd hs hpath⟩

theorem authorizeDraft_of_signQuery (hs : (signQuery d account key now expiresIn).outcome = .ok e) :
    (a.authorizeDraft now d (some expiresIn) (.sharedKey account key)).outcome =
      .ok (e, e.query.length) :=
  Action.bind_outcome_eq_ok.mpr ⟨e, hs, rfl⟩

/-- With a signature in the query, the request that was signed can be sent. -/
theorem authorize_of_signQuery (hd : Draft.ofHead head = .ok d)
    (hs : (signQuery d account key (a.time.getD now) expiresIn).outcome = .ok e)
    (hpath : e.path ≠ "*") :
    (a.authorize now head (some (.sharedKey account key)) (some expiresIn)).2.outcome = .ok () :=
  authorize_of_isAddressable rfl hd (authorizeDraft_of_signQuery hs)
    (isAddressable_of_signQuery (Draft.isAddressable_of_ofHead hd) hs hpath)

/-- The token that is read from the query of a signed draft grants what was asked for. -/
theorem grants_of_signQuery (hp : ∀ p ∈ d.query, p.1 ∉ "sig" :: AccountGrant.fieldNames)
    (h : (signQuery d account key now expiresIn).outcome = .ok e) :
    e.query ≠ [] ∧ ∃ later t, now.add expiresIn = .ok later ∧
      SasToken.ofText (Draft.encodedQuery e.query) = .ok t ∧ t.Grants account key now later := by
  obtain ⟨later, t, -, hlater, ht, rfl⟩ := signQuery_eq_ok.mp h
  have hgrants := AccountGrant.grants_of_token ht rfl rfl
  have hne : t.pairs ≠ [] := hgrants.pairs_ne_nil
  have hquery : (d.query ++ t.pairs).filter (· ≠ ("", "")) =
      d.query.filter (· ≠ ("", "")) ++ t.pairs := by
    rw [List.filter_append, AccountGrant.filter_pairs_of_token ht]
  have hread := @SasToken.ofText_encodedQuery (d.query ++ t.pairs)
    (hquery ▸ List.append_ne_nil_of_right_ne_nil _ hne)
  rw [hquery] at hread
  exact ⟨List.append_ne_nil_of_right_ne_nil _ hne, later, _, hlater, hread,
    hgrants.append fun p hm => hp p (List.mem_filter.mp hm).1⟩

/-- A signature in the query can be verified by whoever reads the request that is sent. -/
theorem carriesGrant_authorize {sent : RequestHead} {result : Action Unit}
    (hp : ∀ p ∈ head.pairs, p.1 ∉ "sig" :: AccountGrant.fieldNames)
    (h : a.authorize now head (some (.sharedKey account key)) (some expiresIn) = (sent, result))
    (hr : result.outcome = .ok ()) :
    ∃ later, (a.time.getD now).add expiresIn = .ok later ∧
      sent.CarriesGrant account key (a.time.getD now) later := by
  obtain ⟨c, d, e, count, uri, hc, hd, hdrafted, hu, rfl⟩ := authorize_eq_ok h hr
  cases hc
  obtain ⟨e', hsigned, heq⟩ := Action.bind_outcome_eq_ok.mp hdrafted
  cases heq
  rw [← Draft.query_of_ofHead hd] at hp
  obtain ⟨hne, later, t, hlater, ht, hgrants⟩ := grants_of_signQuery hp hsigned
  -- the address that was written has a query, so that its path is not an asterisk
  have haddr := isAddressable_of_signQuery (Draft.isAddressable_of_ofHead hd) hsigned
    (Draft.path_ne_star_of_uri hne hu)
  obtain ⟨target, htarget, -, hquery⟩ := Draft.uri_encodeLeading_of_query haddr hne
  cases hu.symm.trans htarget
  exact ⟨later, hlater, _, t, hquery, ht, hgrants⟩

def oneSecond : Duration := ⟨1_000_000_000, by decide⟩

theorem outcome_authorize_inQuery :
    (authorize ⟨.full, none⟩ startOf1970 accentedHead (some (.sharedKey "a" .threeBytes))
      (some oneSecond)).2.outcome = .ok () := by
  obtain ⟨d, hd, hpath⟩ : ∃ d, Draft.ofHead accentedHead = .ok d ∧ d.path ≠ "*" :=
    ⟨_, rfl, by decide⟩
  obtain ⟨later, u, hn, hlater, hu⟩ : ∃ later u, oneSecond.nanoseconds ≤ longestExpiry ∧
      startOf1970.add oneSecond = .ok later ∧
      (queryGrant "a" .threeBytes startOf1970 later).unsigned = .ok u :=
    ⟨_, _, by decide, rfl, rfl⟩
  have hsigned : (signQuery d "a" .threeBytes startOf1970 oneSecond).outcome = .ok _ :=
    signQuery_eq_ok.mpr ⟨later, _, hn, hlater, AccountGrant.token_eq_ok.mpr ⟨u, hu, rfl⟩, rfl⟩
  exact authorize_of_signQuery hd hsigned hpath

theorem carriesGrant_authorize_accentedHead :
    ∃ later, startOf1970.add oneSecond = .ok later ∧
      (authorize ⟨.full, none⟩ startOf1970 accentedHead (some (.sharedKey "a" .threeBytes))
        (some oneSecond)).1.CarriesGrant "a" .threeBytes startOf1970 later :=
  carriesGrant_authorize (by decide +kernel) (Prod.eta _).symm outcome_authorize_inQuery

end Authorizer

end StorageAccess
