import StorageAccess.Proofs.Signing.HeaderSignature

/-! What a failure leaves of a request. Everything is as it was but for the dates: after a draft has
failed, only the first date comes back. -/
namespace StorageAccess

/-- The same request, up to the order in which different headers came. -/
def RequestHead.SameAs (p q : RequestHead) : Prop :=
  p.method = q.method ∧ p.uri = q.uri ∧ ∀ name, p.headers.values name = q.headers.values name

namespace Authorizer

variable {a : Authorizer} {now : Instant} {head : RequestHead} {credential : Option Credential}
variable {expiresIn : Option Duration} {error : Error}

/-- The request could be taken apart, but the draft could not be authorised. -/
def DraftFails (a : Authorizer) (now : Instant) (head : RequestHead)
    (credential : Option Credential) (expiresIn : Option Duration) : Prop :=
  ∃ c d halt, credential = some c ∧ isBearerInQuery c expiresIn = false ∧
    Draft.ofHead head = .ok d ∧
    (a.authorizeDraft (a.time.getD now) d expiresIn c).outcome = .error halt

theorem values_restoredDate (h : Headers) (name : HeaderName) :
    (restoredDate h).values name =
      if name = .msDate then (h.values .msDate).take 1 else h.values name := by
  unfold restoredDate Headers.get?
  cases hv : h.values .msDate with
  | nil => simp
  | cons date dates => simp

theorem headers_of_ofHead {d : Draft} (h : Draft.ofHead head = .ok d) : d.headers = head.headers := by
  obtain ⟨authority, -, rfl⟩ := Draft.ofHead_eq_ok.mp h
  rfl

/-- If an address cannot be written, the headers are still those of the request. -/
theorem headers_of_unwritten {c : Credential} {d e : Draft} {count : Nat}
    (hd : Draft.ofHead head = .ok d)
    (hdrafted : (a.authorizeDraft now d expiresIn c).outcome = .ok (e, count))
    (hu : (encodeLeading e count).uri = .error error) : e.headers = head.headers := by
  cases authorized_of_outcome hdrafted with
  | byHeaders date value =>
    obtain ⟨uri, hw⟩ := exists_uri_of_byHeaders (Draft.isAddressable_of_ofHead hd) date value
    cases hu.symm.trans hw
  | byQuery pairs => exact (headers_of_ofHead hd : d.headers = head.headers)

section failed

variable {left : RequestHead} {result : Action Unit}

/-- Where no draft fails, a failure leaves the request as it was. -/
theorem eq_head_of_error (hf : ¬ a.DraftFails now head credential expiresIn)
    (h : a.authorize now head credential expiresIn = (left, result))
    (hr : result.outcome = .error (.error error)) : left = head := by
  obtain ⟨e, heq⟩ | ⟨c, d, hc, hb, hd, heq⟩ := a.authorize_cases now head credential expiresIn
  · cases h.symm.trans heq
    rfl
  · replace h := heq.symm.trans h
    cases hdrafted : (a.authorizeDraft (a.time.getD now) d expiresIn c).outcome with
    | error halt => exact absurd ⟨c, d, halt, hc, hb, hd, hdrafted⟩ hf
    | ok drafted =>
      obtain ⟨e, count⟩ := drafted
      cases hu : (encodeLeading e count).uri with
      | error e => rw [(finish_of_unwritten h hdrafted hu).1, headers_of_unwritten hd hdrafted hu]
      | ok uri => cases hr.symm.trans (finish_of_written h hdrafted hu).2

/-- Where a draft fails, the request gets its headers back, with the first of its dates. -/
theorem eq_restored_of_draftFails (hf : a.DraftFails now head credential expiresIn)
    (h : a.authorize now head credential expiresIn = (left, result)) :
    left = { head with headers := restoredDate head.headers } := by
  obtain ⟨c, d, halt, rfl, hb, hd, hdrafted⟩ := hf
  rw [authorize_eq_finish hb hd] at h
  exact (finish_of_error h hdrafted).1

/-- A failure leaves method, address and all headers but the date untouched, and the dates as well
unless there are several of them and a draft has failed. -/
theorem sameAs_iff_of_error (h : a.authorize now head credential expiresIn = (left, result))
    (hr : result.outcome = .error (.error error)) :
    left.method = head.method ∧ left.uri = head.uri ∧
      (∀ name, name ≠ .msDate → left.headers.values name = head.headers.values name) ∧
      (left.SameAs head ↔ (head.headers.values .msDate).length ≤ 1 ∨
        ¬ a.DraftFails now head credential expiresIn) := by
  by_cases hf : a.DraftFails now head credential expiresIn
  · rw [eq_restored_of_draftFails hf h]
    refine ⟨rfl, rfl, fun name hn => ?_, ?_, ?_⟩
    · rw [values_restoredDate, if_neg hn]
    · rintro ⟨-, -, hvalues⟩
      have hlength := congrArg List.length (hvalues .msDate)
      rw [values_restoredDate, if_pos rfl, List.length_take] at hlength
      exact .inl (by omega)
    · rintro (hle | hn)
      · refine ⟨rfl, rfl, fun name => ?_⟩
        rw [values_restoredDate]
        split
        · rename_i hname
          rw [hname, List.take_of_length_le hle]
        · rfl
      · exact absurd hf hn
  · rw [eq_head_of_error hf h hr]
    exact ⟨rfl, rfl, fun _ _ => rfl, fun _ => .inr hf, fun _ => ⟨rfl, rfl, fun _ => rfl⟩⟩

end failed

def twiceDatedHead : RequestHead where
  method := accentedHead.method
  uri := .absolute .http ⟨"a", by decide +kernel, by rfl⟩ .slash
  headers := (Headers.empty.append .msDate ⟨[0x31], by decide +kernel, false⟩).append .msDate
    ⟨[0x32], by decide +kernel, false⟩

/-- A token that does not fit into a header. -/
def brokenToken : Credential := .bearer "a\nb" none

theorem sameAs_iff_of_twiceDatedHead : ∃ left result,
    authorize {} startOf1970 twiceDatedHead (some brokenToken) none = (left, result) ∧
      result.outcome = .error (.error HeaderDefect.malformedValue) ∧
      left.method = twiceDatedHead.method ∧ left.uri = twiceDatedHead.uri ∧
      (∀ name, name ≠ .msDate →
        left.headers.values name = twiceDatedHead.headers.values name) ∧
      (left.SameAs twiceDatedHead ↔ (twiceDatedHead.headers.values .msDate).length ≤ 1 ∨
        ¬ DraftFails {} startOf1970 twiceDatedHead (some brokenToken) none) :=
  ⟨_, _, rfl, rfl, sameAs_iff_of_error rfl rfl⟩

/-- The second date is lost. -/
theorem not_sameAs_twiceDatedHead : ∃ left result,
    authorize {} startOf1970 twiceDatedHead (some brokenToken) none = (left, result) ∧
      result.outcome = .error (.error HeaderDefect.malformedValue) ∧
      ¬ left.SameAs twiceDatedHead := by
  refine ⟨_, _, rfl, rfl, ?_⟩
  rintro ⟨-, -, hvalues⟩
  exact absurd (hvalues .msDate) (by decide +kernel)

end Authorizer

end StorageAccess
