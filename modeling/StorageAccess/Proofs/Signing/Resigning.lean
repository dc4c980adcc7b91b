import StorageAccess.Proofs.Signing.HeaderSignature

/-! Signing a request that is signed already. A signature in the headers replaces the one before it and
leaves nothing of it behind, so that a request may be signed anew as often as it is sent. -/
namespace StorageAccess

namespace Headers

theorem remove_insert (h : Headers) {m n : HeaderName} (hne : m ≠ n) (v : HeaderValue) :
    (h.insert m v).remove n = (h.remove n).insert m v := by
  simp only [insert, append, remove, List.filter_append, List.filter_filter, Bool.and_comm]
  simp [hne]

theorem remove_insert_self (h : Headers) (n : HeaderName) (v : HeaderValue) :
    (h.insert n v).remove n = h.remove n := by
  simp [insert, append, remove, List.filter_append, List.filter_filter]

theorem insert_insert_self (h : Headers) (n : HeaderName) (v w : HeaderValue) :
    (h.insert n v).insert n w = h.insert n w := by
  rw [insert, remove_insert_self]
  rfl

/-- What was put in for two names is gone once both are replaced. -/
theorem insert_insert_of_ne (h : Headers) {m n : HeaderName} (hne : m ≠ n)
    (v w newV newW : HeaderValue) :
    (((h.insert m v).insert n w).insert m newV).insert n newW = (h.insert m newV).insert n newW := by
  rw [insert, remove_insert _ hne, remove_insert_self, remove_insert _ hne, insert_insert_self,
    ← remove_insert _ hne]
  rfl

end Headers

namespace Draft

variable {d : Draft}

theorem signed_signed (d : Draft) (date value newDate newValue : HeaderValue) :
    (d.signed date value).signed newDate newValue = d.signed newDate newValue := by
  simp only [signed, withHeader, Headers.insert_insert_of_ne d.headers
    (by decide : HeaderName.msDate ≠ .authorization)]

/-- A new date replaces the old one, and the old authorization is not read. -/
theorem stringToSign_signed (scheme : SharedKeyScheme) (account : String)
    (date value newDate : HeaderValue) :
    scheme.stringToSign ((d.signed date value).withHeader .msDate newDate) account =
      scheme.stringToSign (d.withHeader .msDate newDate) account := by
  apply SharedKeyScheme.stringToSign_congr
  · rfl
  · intro name hn
    rw [Headers.contents, Headers.contents, values_withHeader, values_withHeader, signed,
      values_withHeader, if_neg hn, values_withHeader]
    split <;> rfl
  · cases scheme <;> rfl

end Draft

/-- Whether requests are signed with it in their headers. -/
def Credential.signsHeaders : Credential → Bool
  | .sasToken _ => false
  | _ => true

namespace Authorizer

variable {a : Authorizer} {now : Instant} {d e : Draft} {head : RequestHead} {c : Credential}

/-- A step that does not tell an old signature from none does not after a new date either. -/
theorem bind_dated_signed {β : Type} {f : Draft → Action β} {date value : HeaderValue}
    (hf : ∀ newDate, f ((d.signed date value).withHeader .msDate newDate) =
      f (d.withHeader .msDate newDate)) :
    (Action.ofExcept (dated (d.signed date value) now) >>= f) =
      (Action.ofExcept (dated d now) >>= f) := by
  cases hdate : HeaderValue.ofText now.httpDate with
  | error error =>
    rw [dated, dated, hdate]
    rfl
  | ok newDate =>
    have hdated : ∀ d : Draft, dated d now = .ok (d.withHeader .msDate newDate) := fun d => by
      rw [dated, hdate]
      rfl
    rw [hdated, hdated]
    exact congrArg (fun x : Action β => (⟨[] ++ x.log, x.outcome⟩ : Action β)) (hf newDate)

theorem authorizedBy_signed (date value newDate : HeaderValue) (text : String) :
    authorizedBy ((d.signed date value).withHeader .msDate newDate) text =
      authorizedBy (d.withHeader .msDate newDate) text := by
  cases hvalue : HeaderValue.ofText text with
  | error error =>
    rw [authorizedBy, authorizedBy, hvalue]
    rfl
  | ok newValue =>
    have hsealed : ∀ d : Draft, authorizedBy d text =
        .ok (d.withHeader .authorization newValue.markSensitive) := fun d => by
      rw [authorizedBy, hvalue]
      rfl
    rw [hsealed, hsealed]
    exact congrArg Except.ok (d.signed_signed date value newDate newValue.markSensitive)

/-- Signing takes no notice of an earlier signature. -/
theorem authorizeDraft_signed (hc : c.signsHeaders = true) (date value : HeaderValue) :
    a.authorizeDraft now (d.signed date value) none c = a.authorizeDraft now d none c := by
  cases c with
  | sasToken token => cases hc
  | bearer token expires =>
    apply bind_dated_signed
    intro newDate
    rw [authorizedBy_signed]
  | sharedKey account key =>
    have hs : a.signHeaders (d.signed date value) account key now =
        a.signHeaders d account key now := by
      apply bind_dated_signed
      intro newDate
      simp only [SharedKeyScheme.loggedStringToSign, Draft.stringToSign_signed,
        authorizedBy_signed]
    rw [authorizeDraft, authorizeDraft]
    simp only [hs]

theorem exists_signed_of_outcome {count : Nat} (hc : c.signsHeaders = true)
    (h : (a.authorizeDraft now d none c).outcome = .ok (e, count)) :
    ∃ date value, HeaderValue.ofText now.httpDate = .ok date ∧ value.sensitive = true ∧
      e = d.signed date value ∧ count = d.query.length := by
  cases c with
  | sasToken token => cases hc
  | bearer token expires =>
    simp only [authorizeDraft, Action.bind_outcome_eq_ok, Action.outcome_ofExcept_eq_ok, dated_eq_ok,
      authorizedBy_eq_ok] at h
    obtain ⟨_, ⟨date, hdate, rfl⟩, _, ⟨value, -, rfl⟩, h⟩ := h
    cases h
    exact ⟨date, value.markSensitive, hdate, rfl, rfl, rfl⟩
  | sharedKey account key =>
    obtain ⟨e', hs, h⟩ := Action.bind_outcome_eq_ok.mp h
    obtain ⟨date, s, value, hdate, -, -, rfl⟩ := signHeaders_eq_ok.mp hs
    cases h
    exact ⟨date, value.markSensitive, hdate, rfl, rfl, rfl⟩

section sent

variable {sent : RequestHead} {result : Action Unit}

/-- A signature in the headers is all that a request has gained. -/
theorem ofHead_sent (hc : c.signsHeaders = true) (hp : ("", "") ∉ head.pairs)
    (h : a.authorize now head (some c) none = (sent, result)) (hr : result.outcome = .ok ()) :
    ∃ d date value, Draft.ofHead head = .ok d ∧ Draft.ofHead sent = .ok (d.signed date value) := by
  obtain ⟨_, d, e, count, uri, hsome, hd, hdrafted, hu, rfl⟩ := authorize_eq_ok h hr
  cases hsome
  obtain ⟨date, value, -, -, rfl, rfl⟩ := exists_signed_of_outcome hc hdrafted
  exact ⟨d, date, value, hd, ofHead_signed hp hd hu⟩

/-- What a draft is put back into plays a part only if that fails. -/
theorem finish_congr (p q : RequestHead) (drafted : Action (Draft × Nat)) :
    (finish p drafted).2 = (finish q drafted).2 ∧
      ((finish q drafted).2.outcome = .ok () → (finish p drafted).1 = (finish q drafted).1) := by
  cases hdrafted : drafted.outcome with
  | error halt =>
    have hq := finish_of_error (Prod.eta (finish q drafted)).symm hdrafted
    refine ⟨by simp only [finish, hdrafted], fun hok => ?_⟩
    cases hq.2.symm.trans hok
  | ok x =>
    obtain ⟨e, count⟩ := x
    cases hu : (encodeLeading e count).uri with
    | error error =>
      have hq := finish_of_unwritten (Prod.eta (finish q drafted)).symm hdrafted hu
      refine ⟨by simp only [finish, hdrafted, Draft.applyTo, hu], fun hok => ?_⟩
      cases hq.2.symm.trans hok
    | ok uri => simp only [finish, hdrafted, Draft.applyTo, hu, implies_true, and_self]

theorem isBearerInQuery_none (c : Credential) : isBearerInQuery c none = false := by
  cases c <;> rfl

/-- Signing a signed request comes to what signing it in the first place would have come to. -/
theorem authorize_signed {date value : HeaderValue} (hc : c.signsHeaders = true)
    (hd : Draft.ofHead head = .ok d) (hs : Draft.ofHead sent = .ok (d.signed date value)) :
    (a.authorize now sent (some c) none).2 = (a.authorize now head (some c) none).2 ∧
      ((a.authorize now head (some c) none).2.outcome = .ok () →
        (a.authorize now sent (some c) none).1 = (a.authorize now head (some c) none).1) := by
  rw [authorize_eq_finish (isBearerInQuery_none c) hd, authorize_eq_finish (isBearerInQuery_none c) hs,
    authorizeDraft_signed hc]
  exact finish_congr sent head _

/-- After a signature, another one succeeds or fails as it would have done in its place, and what is sent
is then the same. -/
theorem authorize_sent {b : Authorizer} {later : Instant} {other : Credential}
    (hp : ("", "") ∉ head.pairs) (hc : c.signsHeaders = true) (ho : other.signsHeaders = true)
    (h : a.authorize now head (some c) none = (sent, result)) (hr : result.outcome = .ok ()) :
    (b.authorize later sent (some other) none).2 = (b.authorize later head (some other) none).2 ∧
      ((b.authorize later head (some other) none).2.outcome = .ok () →
        (b.authorize later sent (some other) none).1 =
          (b.authorize later head (some other) none).1) := by
  obtain ⟨d, date, value, hd, hs⟩ := ofHead_sent hc hp h hr
  exact authorize_signed ho hd hs

end sent

theorem authorize_sent_accentedHead :
    let sent := (authorize ⟨.table, none⟩ startOf1970 accentedHead
      (some (.sharedKey "a" .threeBytes)) none).1
    (authorize {} ⟨60, 0, by decide⟩ sent (some (.bearer "t" none)) none).2 =
        (authorize {} ⟨60, 0, by decide⟩ accentedHead (some (.bearer "t" none)) none).2 ∧
      (authorize {} ⟨60, 0, by decide⟩ sent (some (.bearer "t" none)) none).1 =
        (authorize {} ⟨60, 0, by decide⟩ accentedHead (some (.bearer "t" none)) none).1 := by
  intro sent
  have h := @authorize_sent ⟨.table, none⟩ startOf1970 accentedHead (.sharedKey "a" .threeBytes) sent _
    {} ⟨60, 0, by decide⟩ (.bearer "t" none) (by decide +kernel) rfl rfl (Prod.eta _).symm
    outcome_authorize_accentedHead
  exact ⟨h.1, h.2 rfl⟩

/-- A request and what it becomes when it is signed once or several times, each time in its headers. -/
inductive SignedFrom (head : RequestHead) : RequestHead → Prop
  | once {a : Authorizer} {now : Instant} {c : Credential} {sent : RequestHead}
    {result : Action Unit} (hc : c.signsHeaders = true)
    (h : a.authorize now head (some c) none = (sent, result)) (hr : result.outcome = .ok ()) :
    SignedFrom head sent
  | again {a : Authorizer} {now : Instant} {c : Credential} {earlier sent : RequestHead}
    {result : Action Unit} (he : SignedFrom head earlier) (hc : c.signsHeaders = true)
    (h : a.authorize now earlier (some c) none = (sent, result)) (hr : result.outcome = .ok ()) :
    SignedFrom head sent

namespace SignedFrom

variable {sent : RequestHead}

/-- Only the last signature is left. -/
theorem ofHead (h : SignedFrom head sent) (hp : ("", "") ∉ head.pairs) :
    ∃ d date value, Draft.ofHead head = .ok d ∧ Draft.ofHead sent = .ok (d.signed date value) := by
  induction h with
  | once hc h hr => exact ofHead_sent hc hp h hr
  | @again _ _ _ earlier _ _ he hc h hr ih =>
    obtain ⟨d, oldDate, oldValue, hd, hearlier⟩ := ih
    have hpairs : earlier.pairs = head.pairs := calc
      earlier.pairs = (d.signed oldDate oldValue).query := (Draft.query_of_ofHead hearlier).symm
      _ = d.query := rfl
      _ = head.pairs := Draft.query_of_ofHead hd
    obtain ⟨e, date, value, he, hs⟩ := ofHead_sent hc (hpairs ▸ hp) h hr
    cases hearlier.symm.trans he
    rw [Draft.signed_signed] at hs
    exact ⟨d, date, value, hd, hs⟩

/-- However often a request was signed, a new signature comes to what the first would have come to. -/
theorem authorize_eq (h : SignedFrom head sent) (hp : ("", "") ∉ head.pairs)
    (hc : c.signsHeaders = true) :
    (a.authorize now sent (some c) none).2 = (a.authorize now head (some c) none).2 ∧
      ((a.authorize now head (some c) none).2.outcome = .ok () →
        (a.authorize now sent (some c) none).1 = (a.authorize now head (some c) none).1) := by
  obtain ⟨d, date, value, hd, hs⟩ := h.ofHead hp
  exact authorize_signed hc hd hs

end SignedFrom

end Authorizer

end StorageAccess
