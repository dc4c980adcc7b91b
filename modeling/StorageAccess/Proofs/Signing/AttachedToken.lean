import StorageAccess.Proofs.Signing.SentRequest

/-! Tokens that were issued earlier. Such a token is put after the query as it is. Whoever writes an
address takes a number sign for the end of the query, so that a token with one in it loses the rest. -/
namespace StorageAccess

open PathAndQuery (withoutFragment)

namespace RequestHead

def query? (head : RequestHead) : Option String := head.uri.target?.bind PathAndQuery.query

/-- Whether a token can be put after the query. -/
structure Admits (head : RequestHead) (token : String) : Prop where
  authority : head.uri.authority?.isSome = true
  path : head.path ≠ "*"
  chars : (withoutFragment token).toList.all isQueryChar = true

end RequestHead

namespace Draft

/-- The pairs of a query as they are written, and a token after them. -/
def withToken (pairs : List (String × String)) (token : String) : String :=
  if pairs = [] then token else encodedQuery pairs ++ "&" ++ token

theorem numberSign_not_mem_encodedQuery (pairs : List (String × String)) :
    '#' ∉ (encodedQuery pairs).toList := fun hm =>
  absurd (isQueryChar_of_mem_encodedQuery hm).1 (by decide)

theorem withoutFragment_withToken (pairs : List (String × String)) (token : String) :
    withoutFragment (withToken pairs token) = withToken pairs (withoutFragment token) := by
  unfold withToken
  split
  · rfl
  · apply PathAndQuery.withoutFragment_append
    rw [String.toList_append, List.mem_append, not_or]
    exact ⟨numberSign_not_mem_encodedQuery pairs, by decide⟩

theorem all_withToken (pairs : List (String × String)) (token : String) :
    (withToken pairs token).toList.all isQueryChar = token.toList.all isQueryChar := by
  have hpairs : (encodedQuery pairs).toList.all isQueryChar = true :=
    List.all_eq_true.mpr fun c hc => (isQueryChar_of_mem_encodedQuery hc).1
  unfold withToken
  split
  · rfl
  · rw [String.toList_append, String.toList_append, List.all_append, List.all_append, hpairs,
      show "&".toList.all isQueryChar = true from by decide]
    rfl

theorem withToken_inj {pairs : List (String × String)} {token other : String} :
    withToken pairs token = withToken pairs other ↔ token = other := by
  unfold withToken
  split
  · rfl
  · simp

variable {d : Draft} {token : String}

theorem query_encodeLeading_pushEncoded :
    (Authorizer.encodeLeading (d.pushEncoded token) d.query.length).query =
      d.query.map Authorizer.encodePair ++ [(token, "")] := by
  simp [Authorizer.encodeLeading, pushEncoded, pushPair]

theorem joinWith_writePair_token (pairs : List (String × String)) (token : String) :
    joinWith "&" ((pairs.map Authorizer.encodePair ++ [(token, "")]).map writePair) =
      withToken pairs token := by
  have hlast : writePair (token, "") = token := if_pos rfl
  unfold withToken
  split
  · rename_i hnil
    rw [hnil]
    exact hlast
  · rename_i hne
    rw [List.map_append, List.map_singleton, hlast, joinWith_append (by simpa using hne) (by simp)]
    rfl

/-- A token is written if there is a path to add to and the token is made of the right characters. -/
theorem uri_pushEncoded_eq_ok (hd : d.IsAddressable) {uri : Uri} :
    (Authorizer.encodeLeading (d.pushEncoded token) d.query.length).uri = .ok uri ↔
      d.path ≠ "*" ∧ (withoutFragment token).toList.all isQueryChar = true ∧
        ∃ t : PathAndQuery, uri = .absolute d.scheme d.authority t ∧ t.path = d.path ∧
          t.query = some (withToken d.query (withoutFragment token)) := by
  have hne : (Authorizer.encodeLeading (d.pushEncoded token) d.query.length).query ≠ [] := by
    rw [query_encodeLeading_pushEncoded]
    exact List.append_ne_nil_of_right_ne_nil _ (List.cons_ne_nil _ [])
  rw [uri_eq_ok_of_query (d := Authorizer.encodeLeading (d.pushEncoded token) d.query.length)
    hd.path hne, query_encodeLeading_pushEncoded, joinWith_writePair_token,
    withoutFragment_withToken, all_withToken]
  rfl

end Draft

namespace Authorizer

variable {a : Authorizer} {now : Instant} {head sent : RequestHead} {token : String}
variable {expiresIn : Option Duration}

/-- What becomes of a token in the request that is sent. -/
structure Attaches (head sent : RequestHead) (token : String) : Prop where
  headers : sent.headers = head.headers
  query : sent.query? = some (Draft.withToken head.pairs (withoutFragment token))
  /-- The token is all there exactly if there is no number sign in it. -/
  verbatim : sent.query? = some (Draft.withToken head.pairs token) ↔ '#' ∉ token.toList

theorem attaches_of_query (hheaders : sent.headers = head.headers)
    (hquery : sent.query? = some (Draft.withToken head.pairs (withoutFragment token))) :
    Attaches head sent token := by
  refine ⟨hheaders, hquery, ?_⟩
  rw [hquery, Option.some.injEq, Draft.withToken_inj]
  exact PathAndQuery.withoutFragment_eq_self_iff

/-- A request that can be taken apart admits a token if an address can be written with it. -/
theorem admits_iff_of_ofHead {d : Draft} (hd : Draft.ofHead head = .ok d) : head.Admits token ↔
    ∃ uri, (encodeLeading (d.pushEncoded token) d.query.length).uri = .ok uri := by
  have haddr := Draft.isAddressable_of_ofHead hd
  obtain ⟨authority, hauthority, rfl⟩ := Draft.ofHead_eq_ok.mp hd
  simp only [Draft.uri_pushEncoded_eq_ok haddr]
  constructor
  · rintro ⟨-, hpath, hchars⟩
    have hquery := (Draft.all_withToken head.pairs (withoutFragment token)).trans hchars
    exact ⟨_, hpath, hchars, ⟨head.path, some _, haddr.path, by simpa using hquery,
      fun hstar => absurd hstar hpath⟩, rfl, rfl, rfl⟩
  · rintro ⟨uri, hpath, hchars, -⟩
    exact ⟨by rw [hauthority]; rfl, hpath, hchars⟩

theorem not_admits_of_ofHead {error : Error} (hd : Draft.ofHead head = .error error) :
    ¬ head.Admits token := by
  intro hadmits
  obtain ⟨authority, hauthority⟩ := Option.isSome_iff_exists.mp hadmits.authority
  cases hd.symm.trans (Draft.ofHead_eq_ok.mpr ⟨authority, hauthority, rfl⟩)

/-- A request gets a token if it admits one, and else stays as it is. The token is put after its query up
to the first number sign, and the headers are left alone. -/
theorem attaches_of_authorize {result : Action Unit}
    (h : a.authorize now head (some (.sasToken token)) expiresIn = (sent, result)) :
    (result.outcome = .ok () ↔ head.Admits token) ∧
      (result.outcome = .ok () → Attaches head sent token) ∧
      (result.outcome ≠ .ok () → sent = head) := by
  cases hd : Draft.ofHead head with
  | error error =>
    have hrefused : a.authorize now head (some (.sasToken token)) expiresIn =
        (head, Action.fail error) := by simp [authorize, isBearerInQuery, hd]
    cases h.symm.trans hrefused
    have hne : (Action.fail error : Action Unit).outcome ≠ .ok () := fun hok => by cases hok
    exact ⟨iff_of_false hne (not_admits_of_ofHead hd), fun hok => absurd hok hne, fun _ => rfl⟩
  | ok d =>
    have hfinish := (authorize_eq_finish rfl hd).symm.trans h
    have hheaders : d.headers = head.headers := headers_of_ofHead hd
    rw [admits_iff_of_ofHead hd]
    cases hu : (encodeLeading (d.pushEncoded token) d.query.length).uri with
    | error error =>
      obtain ⟨rfl, hout⟩ := finish_of_unwritten hfinish rfl hu
      have hne : result.outcome ≠ .ok () := fun hok => by cases hok.symm.trans hout
      have hunwritten : ¬ ∃ uri, (Except.error error : Except Error Uri) = .ok uri :=
        not_exists.mpr fun uri heq => by cases heq
      exact ⟨iff_of_false hne hunwritten, fun hok => absurd hok hne,
        fun _ => congrArg (fun headers => (⟨head.method, head.uri, headers⟩ : RequestHead)) hheaders⟩
    | ok uri =>
      obtain ⟨rfl, hout⟩ := finish_of_written hfinish rfl hu
      obtain ⟨-, -, t, rfl, -, hquery⟩ :=
        (Draft.uri_pushEncoded_eq_ok (Draft.isAddressable_of_ofHead hd)).mp hu
      rw [Draft.query_of_ofHead hd] at hquery
      exact ⟨⟨fun _ => ⟨_, rfl⟩, fun _ => hout⟩, fun _ => attaches_of_query hheaders hquery,
        fun hne => absurd hout hne⟩

theorem attaches_of_authorize_accentedHead : ∃ sent result,
    authorize {} startOf1970 accentedHead (some (.sasToken "s=1#2")) none = (sent, result) ∧
      result.outcome = .ok () ∧ accentedHead.Admits "s=1#2" ∧ Attaches accentedHead sent "s=1#2" := by
  obtain ⟨sent, result, h, hout⟩ : ∃ sent result,
      authorize {} startOf1970 accentedHead (some (.sasToken "s=1#2")) none = (sent, result) ∧
        result.outcome = .ok () := ⟨_, _, rfl, rfl⟩
  obtain ⟨hadmits, hattaches, -⟩ := attaches_of_authorize h
  exact ⟨sent, result, h, hout, hadmits.mp hout, hattaches hout⟩

/-- A token of three characters of which one is sent. -/
theorem not_attached_twiceDatedHead : ∃ sent result,
    authorize {} startOf1970 twiceDatedHead (some (.sasToken "a#b")) none = (sent, result) ∧
      result.outcome = .ok () ∧ sent.uri.text = "http://a/?a" ∧
      ¬ ∃ start, sent.query? = some (start ++ "a#b") := by
  refine ⟨_, _, rfl, rfl, rfl, ?_⟩
  rintro ⟨start, h⟩
  have hsent : "a" = start ++ "a#b" := Option.some.inj h
  have hlength := congrArg String.length hsent
  rw [String.length_append] at hlength
  change 1 = start.length + 3 at hlength
  omega

end Authorizer

end StorageAccess
