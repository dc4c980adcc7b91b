import StorageAccess.Proofs.Signing.FailedSigning
import StorageAccess.Proofs.Signing.SharedCell

/-! What credentials requests are signed with. One that lies in the cell is used as long as it is valid.
One that the provider has just given is used whether or not it is. -/
namespace StorageAccess

namespace Signers

variable {setup : SignerSetup} {env : Environment} {past : List Access} {now : Instant}
variable {c : Credential}

/-- A credential that signers give out after what was before. -/
inductive Offers (setup : SignerSetup) (env : Environment) (past : List Access) (now : Instant)
    (c : Credential) : Prop
  /-- It was written last and is valid. -/
  | kept (h : held past = some c) (hvalid : c.isValid now = true)
  /-- Nothing valid was written last, and the provider gives it. -/
  | loaded (h : Credential.isUsable now (held past) = false)
    (hload : (setup.provider.load env (asked past)).outcome = .ok (some c))

theorem offers_of_outcome
    (h : (sourceAt past setup env now).credential.outcome = .ok (some c)) :
    Offers setup env past now c := by
  unfold sourceAt at h
  split at h
  · rename_i husable
    have hheld : held past = some c := Except.ok.inj h
    rw [hheld] at husable
    exact .kept hheld husable
  · rename_i husable
    rw [Source.outcome_credential] at h
    exact .loaded (Bool.not_eq_true _ ▸ husable) h

/-- What is given out is valid unless the provider has just given something invalid. -/
theorem Offers.isValid_eq_false_iff (h : Offers setup env past now c) : c.isValid now = false ↔
    Credential.isUsable now (held past) = false ∧
      ∃ loaded, (setup.provider.load env (asked past)).outcome = .ok (some loaded) ∧
        loaded.isValid now = false := by
  cases h with
  | kept hheld hvalid =>
    rw [hheld]
    change _ ↔ c.isValid now = false ∧ _
    simp [hvalid]
  | loaded hunusable hload => simp [hunusable, hload]

/-- A request that was signed was signed with a credential that was given out. -/
theorem offers_of_signs {head sent : RequestHead} {expiresIn : Option Duration} {result : Action Unit}
    (h : (Access.signs now head expiresIn (sourceAt past setup env now)).answer setup =
      .signed sent result)
    (hr : result.outcome = .ok ()) :
    ∃ c, Offers setup env past now c ∧
      (setup.authorizer.authorize now head (some c) expiresIn).1 = sent ∧
      (setup.authorizer.authorize now head (some c) expiresIn).2.outcome = .ok () := by
  rw [Access.answer] at h
  split at h
  · rename_i halt hout
    cases h
    obtain ⟨c, hc, -⟩ := Action.bind_outcome_eq_ok.mp hr
    cases hout.symm.trans hc
  · rename_i c hout
    cases h
    obtain ⟨_, -, hauthorized⟩ := Action.bind_outcome_eq_ok.mp hr
    cases c with
    | none => cases hauthorized
    | some c => exact ⟨c, offers_of_outcome hout, rfl, hauthorized⟩

/-- After any visits, a request that is signed is signed with what the cell holds if that is valid, and
else with what the provider gives. So it is signed with an invalid credential exactly if the cell holds
nothing valid and the provider gives something invalid. -/
theorem offers_of_signed (setup : SignerSetup) (env : Environment) (visits : List Visit) {v : Visit}
    {head sent : RequestHead} {expiresIn : Option Duration} {result : Action Unit}
    (hv : v.use = .sign head expiresIn)
    (h : (visit setup (after setup { environment := env } visits) v).2 = .signed sent result)
    (hr : result.outcome = .ok ()) :
    ∃ c, Offers setup env (accesses setup env visits) v.now c ∧
      (setup.authorizer.authorize v.now head (some c) expiresIn).1 = sent ∧
      (setup.authorizer.authorize v.now head (some c) expiresIn).2.outcome = .ok () ∧
      (c.isValid v.now = false ↔
        Credential.isUsable v.now (held (accesses setup env visits)) = false ∧
          ∃ loaded, (setup.provider.load env (asked (accesses setup env visits))).outcome =
              .ok (some loaded) ∧ loaded.isValid v.now = false) := by
  obtain ⟨-, hreflects⟩ := (reflects_nil env).run setup visits
  rw [(hreflects.visit v).answer, accessAt, hv] at h
  split at h
  · obtain ⟨c, hoffers, hsent, hauthorized⟩ := offers_of_signs h hr
    exact ⟨c, hoffers, hsent, hauthorized, hoffers.isValid_eq_false_iff⟩
  · cases h

/-- A variable with nothing but the mark that tokens may begin with. -/
def markEnvironment : Environment := .ofPairs [(Settings.sasTokenVariable, "?")]

def plainHead : RequestHead := { Authorizer.twiceDatedHead with headers := .empty }

def plainVisit : Visit := ⟨0, Authorizer.startOf1970, .sign plainHead none⟩

def tokenVisit : Visit := ⟨0, Authorizer.startOf1970, .rotate (.sasToken "t")⟩

theorem offers_of_signed_plainVisit : ∃ sent result,
    (visit .standard (after .standard { environment := markEnvironment } [tokenVisit])
        plainVisit).2 = .signed sent result ∧
      result.outcome = .ok () ∧
      ∃ c, Offers .standard markEnvironment
          (accesses .standard markEnvironment [tokenVisit]) plainVisit.now c ∧
        (SignerSetup.standard.authorizer.authorize plainVisit.now plainHead (some c) none).1 = sent ∧
        (SignerSetup.standard.authorizer.authorize plainVisit.now plainHead (some c)
          none).2.outcome = .ok () ∧
        (c.isValid plainVisit.now = false ↔
          Credential.isUsable plainVisit.now
              (held (accesses .standard markEnvironment [tokenVisit])) = false ∧
            ∃ loaded, (SignerSetup.standard.provider.load markEnvironment
                (asked (accesses .standard markEnvironment [tokenVisit]))).outcome =
                .ok (some loaded) ∧ loaded.isValid plainVisit.now = false) :=
  ⟨_, _, rfl, rfl, offers_of_signed .standard markEnvironment [tokenVisit] rfl rfl rfl⟩

/-- A request is taken for signed although there was nothing to sign it with. -/
theorem not_isValid_plainVisit : ∃ sent result,
    (visit .standard { environment := markEnvironment } plainVisit).2 = .signed sent result ∧
      result.outcome = .ok () ∧ sent.uri.text = "http://a/?" ∧ sent.headers = plainHead.headers ∧
      ∃ c, (credential .standard { environment := markEnvironment } plainVisit.now).2.outcome =
          .ok (some c) ∧ c.isValid plainVisit.now = false :=
  ⟨_, _, rfl, rfl, rfl, rfl, _, rfl, rfl⟩

end Signers

end StorageAccess
