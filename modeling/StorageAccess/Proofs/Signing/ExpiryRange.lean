import StorageAccess.Proofs.Signing.QuerySignature
import StorageAccess.Proofs.Time.LaterInstant

/-! How signing in the query ends. It asks for a time to expire, which may lie too far away: one that is
longer than such times can be is refused, and one that ends after the last year is a fault. -/
namespace StorageAccess

namespace Authorizer

variable {a : Authorizer} {now later : Instant} {head : RequestHead} {d e : Draft} {account : String}
variable {key : AccountKey} {expiresIn : Duration}

/-- What a query signature grants can be granted to anyone from one time to a later one. -/
theorem exists_unsigned_queryGrant (account : String) (key : AccountKey)
    (h : now ≤ later) : ∃ u, (queryGrant account key now later).unsigned = .ok u := by
  have hwindow : (queryGrant account key now later).policy.checkWindow = .ok () := by
    refine Policy.checkWindow_eq_ok_iff.mpr ?_
    rintro start expiry ⟨⟩ ⟨⟩
    exact h
  have hpermissions : queryPermissions.inOrder "racwdlup" = .ok "racwdlu" := by rfl
  have hvalid : (queryGrant account key now later).validate = .ok () := by
    rw [AccountGrant.validate, hwindow]
    rfl
  exact ⟨_, bind_unit_eq_ok.mpr ⟨hvalid, bind_eq_ok.mpr ⟨_, hpermissions, rfl⟩⟩⟩

theorem outcome_expiry_of_long (h : longestExpiry < expiresIn.nanoseconds) :
    (expiry now expiresIn).outcome = .error (.error AuthorizationDefect.expiryOutOfRange) := by
  rw [expiry, if_neg (by omega)]
  rfl

theorem outcome_expiry_of_late (h : ¬longestExpiry < expiresIn.nanoseconds)
    (hlate : lastSecond < now.secondAfter expiresIn) :
    (expiry now expiresIn).outcome = .error (.fault .instantOverflow) := by
  rw [expiry, if_pos (by omega), Instant.add, Instant.add?_eq_none_iff.mpr hlate]
  rfl

/-- Nothing else can go wrong before the request is written. -/
theorem exists_signQuery (d : Draft) (account : String) (key : AccountKey)
    (h : ¬longestExpiry < expiresIn.nanoseconds) (hlate : ¬lastSecond < now.secondAfter expiresIn) :
    ∃ e, (signQuery d account key now expiresIn).outcome = .ok e ∧ e.path = d.path ∧
      e.query ≠ [] := by
  obtain ⟨later, hlater⟩ : ∃ later, now.add? expiresIn = some later :=
    Option.ne_none_iff_exists'.mp (mt Instant.add?_eq_none_iff.mp hlate)
  obtain ⟨u, hu⟩ := exists_unsigned_queryGrant account key (Instant.le_of_add? hlater)
  have ht := AccountGrant.token_eq_ok.mpr ⟨u, hu, rfl⟩
  have hadd : now.add expiresIn = .ok later := by rw [Instant.add, hlater]
  refine ⟨_, signQuery_eq_ok.mpr ⟨later, _, by omega, hadd, ht, rfl⟩, rfl, ?_⟩
  exact List.append_ne_nil_of_right_ne_nil _
    (AccountGrant.grants_of_token ht rfl rfl).pairs_ne_nil

/-- A signature in the query fails as its time to expire does. -/
theorem authorize_of_expiry {halt : Halt} (hd : Draft.ofHead head = .ok d)
    (he : (expiry (a.time.getD now) expiresIn).outcome = .error halt) :
    (a.authorize now head (some (.sharedKey account key)) (some expiresIn)).2.outcome =
      .error halt := by
  have hsigned : (signQuery d account key (a.time.getD now) expiresIn).outcome = .error halt := by
    rw [signQuery, Action.outcome_bind, he]
    rfl
  have hdrafted : (a.authorizeDraft (a.time.getD now) d (some expiresIn)
      (.sharedKey account key)).outcome = .error halt := by
    rw [authorizeDraft, Action.outcome_bind, hsigned]
    rfl
  rw [authorize_eq_finish rfl hd]
  exact (finish_of_error (Prod.eta _).symm hdrafted).2

/-- Without a path there is no place for a signature. -/
theorem authorize_of_star (hd : Draft.ofHead head = .ok d) (hpath : e.path = "*")
    (hs : (signQuery d account key (a.time.getD now) expiresIn).outcome = .ok e) (hq : e.query ≠ []) :
    (a.authorize now head (some (.sharedKey account key)) (some expiresIn)).2.outcome =
      .error (.error UriDefect.noLeadingSlash.error) := by
  rw [authorize_eq_finish rfl hd]
  exact (finish_of_unwritten (Prod.eta _).symm (authorizeDraft_of_signQuery hs)
    (Draft.uri_encodeLeading_of_star hq hpath)).2

theorem authorize_inQuery_eq (a : Authorizer) (now : Instant) (account : String) (key : AccountKey)
    (expiresIn : Duration) (h : head.uri.authority?.isSome = true) :
    (a.authorize now head (some (.sharedKey account key)) (some expiresIn)).2.outcome =
      if longestExpiry < expiresIn.nanoseconds then
        .error (.error AuthorizationDefect.expiryOutOfRange)
      else if lastSecond < (a.time.getD now).secondAfter expiresIn then
        .error (.fault .instantOverflow)
      else if head.path = "*" then .error (.error UriDefect.noLeadingSlash.error)
      else .ok () := by
  obtain ⟨authority, hauthority⟩ := Option.isSome_iff_exists.mp h
  obtain ⟨d, hd, hpath⟩ : ∃ d, Draft.ofHead head = .ok d ∧ d.path = head.path :=
    ⟨_, Draft.ofHead_eq_ok.mpr ⟨authority, hauthority, rfl⟩, rfl⟩
  by_cases hlong : longestExpiry < expiresIn.nanoseconds
  · rw [if_pos hlong]
    exact authorize_of_expiry hd (outcome_expiry_of_long hlong)
  rw [if_neg hlong]
  by_cases hlate : lastSecond < (a.time.getD now).secondAfter expiresIn
  · rw [if_pos hlate]
    exact authorize_of_expiry hd (outcome_expiry_of_late hlong hlate)
  rw [if_neg hlate]
  obtain ⟨e, hs, hsame, hq⟩ := exists_signQuery d account key hlong hlate
  rw [← hpath, ← hsame]
  split
  · rename_i hstar
    exact authorize_of_star hd hstar hs hq
  · rename_i hstar
    exact authorize_of_signQuery hd hs hstar

/-- How a signature in the query ends, for a request to a server. Every error is about the input. Times
to expire that are not too long, but end after the last year, are a fault. -/
theorem ends_of_authorize {sent : RequestHead} {result : Action Unit}
    (h : a.authorize now head (some (.sharedKey account key)) (some expiresIn) = (sent, result))
    (hserver : head.uri.authority?.isSome = true) :
    (result.outcome = .ok () ↔ expiresIn.nanoseconds ≤ longestExpiry ∧
        (a.time.getD now).secondAfter expiresIn ≤ lastSecond ∧ head.path ≠ "*") ∧
      (∀ error, result.outcome = .error (.error error) → error.kind = .signatureInput) ∧
      ∀ fault, result.outcome = .error (.fault fault) ↔ fault = .instantOverflow ∧
        expiresIn.nanoseconds ≤ longestExpiry ∧
          lastSecond < (a.time.getD now).secondAfter expiresIn := by
  have houtcome := a.authorize_inQuery_eq now account key expiresIn hserver
  rw [h] at houtcome
  change result.outcome = _ at houtcome
  rw [houtcome]
  by_cases hlong : longestExpiry < expiresIn.nanoseconds
  · simp [hlong, Nat.not_le.mpr hlong, AuthorizationDefect.expiryOutOfRange]
  by_cases hlate : lastSecond < (a.time.getD now).secondAfter expiresIn
  · simp [hlong, hlate, Nat.not_lt.mp hlong, Int.not_le.mpr hlate, eq_comm]
  by_cases hstar : head.path = "*"
  · simp [hlong, hlate, hstar, UriDefect.error, Error.caused]
  · simp [hlong, hlate, hstar, Nat.not_lt.mp hlong, Int.not_lt.mp hlate]

theorem ends_of_authorize_longest : ∃ sent result,
    authorize {} startOf1970 accentedHead (some (.sharedKey "a" .threeBytes))
        (some Duration.longest) = (sent, result) ∧
      accentedHead.uri.authority?.isSome = true ∧
      result.outcome ≠ .ok () ∧ ∀ fault, result.outcome ≠ .error (.fault fault) := by
  obtain ⟨sent, result, h⟩ : ∃ sent result, authorize {} startOf1970 accentedHead
      (some (.sharedKey "a" .threeBytes)) (some Duration.longest) = (sent, result) :=
    ⟨_, _, (Prod.eta _).symm⟩
  obtain ⟨hok, -, hfault⟩ := ends_of_authorize h (by decide)
  refine ⟨sent, result, h, by decide, ?_, fun fault => ?_⟩
  · exact mt hok.mp fun hin => absurd hin.1 (by decide)
  · exact mt (hfault fault).mp fun hin => absurd hin.2.1 (by decide)

/-- More than 250,000 years, in less milliseconds than are allowed. -/
def lateExpiry : Duration := ⟨8_300_000_000_000_000_000_000, by decide⟩

theorem fault_of_lateExpiry :
    accentedHead.uri.authority?.isSome = true ∧
      (authorize {} startOf1970 accentedHead (some (.sharedKey "a" .threeBytes))
        (some lateExpiry)).2.outcome = .error (.fault .instantOverflow) :=
  ⟨by decide, authorize_of_expiry (d := _) rfl (outcome_expiry_of_late (by decide) (by decide))⟩

end Authorizer

end StorageAccess
