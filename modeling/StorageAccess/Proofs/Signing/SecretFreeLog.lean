import StorageAccess.Proofs.Credentials.MaskedSecret
import StorageAccess.Proofs.Signing.QuerySignature
import StorageAccess.Proofs.Signing.SharedCell
import StorageAccess.Proofs.Trace

/-! What signers log does not depend on secrets. Credentials that differ in their secrets only are used in
the same way, and environments that look alike give such credentials. -/
namespace StorageAccess

theorem AccountGrant.trace_token_withKey (g : AccountGrant) (key : AccountKey) :
    ({ g with key } : AccountGrant).token.trace = g.token.trace :=
  Action.trace_bind_congr fun _ =>
    (Action.trace_bind_of_unseen fun _ => rfl).trans (Action.trace_bind_of_unseen fun _ => rfl).symm

namespace Authorizer

variable {a : Authorizer} {now : Instant} {head : RequestHead} {d : Draft} {account : String}
variable {expiresIn : Option Duration}

theorem trace_signHeaders (key key' : AccountKey) :
    (a.signHeaders d account key now).trace = (a.signHeaders d account key' now).trace :=
  Action.trace_bind_congr fun _ => Action.trace_bind_congr fun _ =>
    (Action.trace_ofExcept _).trans (Action.trace_ofExcept _).symm

theorem trace_signQuery {expiresIn : Duration} (key key' : AccountKey) :
    (signQuery d account key now expiresIn).trace =
      (signQuery d account key' now expiresIn).trace := by
  refine Action.trace_bind_congr fun later => ?_
  rw [Action.trace_bind_of_unseen fun _ => rfl, Action.trace_bind_of_unseen fun _ => rfl]
  exact AccountGrant.trace_token_withKey (queryGrant account key' now later) key

/-- Drafts are authorised in the same way whatever the secret is. -/
theorem trace_authorizeDraft_masked (c : Credential) :
    (a.authorizeDraft now d expiresIn c.masked).trace =
      (a.authorizeDraft now d expiresIn c).trace := by
  cases c with
  | sasToken token => rfl
  | bearer token expires =>
    refine Action.trace_bind_congr fun d => ?_
    rw [Action.trace_bind_of_unseen fun _ => rfl, Action.trace_bind_of_unseen fun _ => rfl,
      Action.trace_ofExcept, Action.trace_ofExcept]
  | sharedKey account key =>
    have hunseen : ∀ x : Action Draft, (x >>= fun d => pure (d, d.query.length)).trace = x.trace :=
      fun _ => Action.trace_bind_of_unseen fun _ => rfl
    cases expiresIn with
    | none => exact (hunseen _).trans ((trace_signHeaders key.masked key).trans (hunseen _).symm)
    | some expiresIn =>
      exact (hunseen _).trans ((trace_signQuery key.masked key).trans (hunseen _).symm)

theorem trace_finish (head : RequestHead) (drafted : Action (Draft × Nat)) :
    (finish head drafted).2.trace = drafted.trace := by
  unfold finish
  split
  · exact Action.trace_bind_of_unseen fun _ => Action.trace_ofExcept _
  · exact Action.trace_bind_of_unseen fun _ => rfl

theorem isBearerInQuery_masked (c : Credential) :
    isBearerInQuery c.masked expiresIn = isBearerInQuery c expiresIn := by
  cases c <;> rfl

/-- So are requests. -/
theorem trace_authorize_masked (c : Option Credential) :
    (a.authorize now head (c.map Credential.masked) expiresIn).2.trace =
      (a.authorize now head c expiresIn).2.trace := by
  cases c with
  | none => rfl
  | some c =>
    rw [Option.map_some]
    unfold authorize
    simp only [isBearerInQuery_masked]
    split
    · rfl
    split
    · rfl
    · rw [trace_finish, trace_finish, trace_authorizeDraft_masked]

end Authorizer

/-- Two environments from which credentials are loaded that differ in their secrets only. -/
def Provider.LoadsAlike (p : Provider) (e f : Environment) : Prop :=
  ∀ n, Action.AgreeBy (Option.map Credential.masked) (p.load e n) (p.load f n)

theorem Provider.loadsAlike_environment {e f : Environment} (h : e.LooksLike f) (he : e.IsReadable)
    (hf : f.IsReadable) : environment.LoadsAlike e f := by
  intro n
  have hsettings := Settings.looksLike_orElse h
  have hcredential := hsettings.credential (Settings.isReadable_orElse he)
    (Settings.isReadable_orElse hf)
  simp only [environment, hsettings.describe]
  exact (Action.AgreeBy.refl id _).bind fun _ _ _ => .ofExcept hcredential

namespace Signers

variable {setup : SignerSetup} {s t : Signers}

/-- Sources of credentials that differ in their secrets only. -/
inductive Source.Alike : Source → Source → Prop
  | cell {c d : Option Credential} (h : c.map Credential.masked = d.map Credential.masked) :
    Alike (.cell c) (.cell d)
  | provider {x y : Action (Option Credential)}
    (h : Action.AgreeBy (Option.map Credential.masked) x y) : Alike (.provider x) (.provider y)

theorem Source.Alike.credential {first second : Source} (h : first.Alike second) :
    Action.AgreeBy (Option.map Credential.masked) first.credential second.credential := by
  cases h with
  | cell h => exact ⟨rfl, congrArg Except.ok h⟩
  | provider h =>
    refine h.bind fun c d hcd => ?_
    have hsome : c.isSome = d.isSome := by
      rw [← Option.isSome_map (f := Credential.masked), hcd, Option.isSome_map]
    rw [hsome]
    refine (Action.AgreeBy.refl id _).bind fun _ _ _ => ?_
    exact ⟨rfl, congrArg Except.ok hcd⟩

/-- Signers that differ in secrets only. -/
structure Alike (setup : SignerSetup) (s t : Signers) : Prop where
  environment : setup.provider.LoadsAlike s.environment t.environment
  cell : s.cell.map Credential.masked = t.cell.map Credential.masked
  loads : s.loads = t.loads
  count : s.count = t.count

namespace Alike

theorem source (h : Alike setup s t) (now : Instant) :
    (source setup s now).Alike (source setup t now) := by
  have husable : Credential.isUsable now s.cell = Credential.isUsable now t.cell := by
    rw [← Credential.isUsable_map_masked, h.cell, Credential.isUsable_map_masked]
  unfold Signers.source
  rw [husable, h.loads]
  split
  · exact .cell h.cell
  · exact .provider (h.environment t.loads)

theorem take {first second : Source} (h : Alike setup s t) (hsource : first.Alike second) :
    Alike setup (s.take first) (t.take second) := by
  cases hsource with
  | cell => exact h
  | provider hload =>
    refine ⟨h.environment, ?_, congrArg (· + 1) h.loads, h.count⟩
    obtain ⟨halt, hx, hy⟩ | ⟨c, d, hx, hy, hcd⟩ := hload.cases_outcome
    · simp only [Signers.take, hx, hy]
      exact h.cell
    · simp only [Signers.take, hx, hy]
      exact hcd

end Alike

/-- What is seen of an answer. -/
def Answer.trace : Answer → List LogRecord × Option Fault
  | .absent | .cloned => ([], none)
  | .rotated result => result.trace
  | .given result => result.trace
  | .signed _ result => result.trace

theorem sign_eq (setup : SignerSetup) (s : Signers) (now : Instant) (head : RequestHead)
    (expiresIn : Option Duration) :
    (sign setup s now head expiresIn).1 = (credential setup s now).1 ∧
      (sign setup s now head expiresIn).2.2 = (credential setup s now).2 >>= fun c =>
        (setup.authorizer.authorize now head c expiresIn).2 := by
  unfold sign
  cases h : (credential setup s now).2.outcome with
  | error halt => simp only [h, Action.bind_of_error h, and_self]
  | ok c => simp only [h, Action.bind_of_ok h, and_self]

namespace Alike

theorem perform_sign (h : Alike setup s t) (now : Instant) (head : RequestHead)
    (expiresIn : Option Duration) :
    Alike setup (perform setup s now (.sign head expiresIn)).1
        (perform setup t now (.sign head expiresIn)).1 ∧
      (perform setup s now (.sign head expiresIn)).2.trace =
        (perform setup t now (.sign head expiresIn)).2.trace := by
  obtain ⟨hs, hresult⟩ := sign_eq setup s now head expiresIn
  obtain ⟨ht, hresult'⟩ := sign_eq setup t now head expiresIn
  rw [credential_eq] at hs hresult ht hresult'
  have hsource := h.source now
  constructor
  · change Alike setup (sign setup s now head expiresIn).1 (sign setup t now head expiresIn).1
    rw [hs, ht]
    exact h.take hsource
  · change (sign setup s now head expiresIn).2.2.trace = (sign setup t now head expiresIn).2.2.trace
    rw [hresult, hresult']
    refine hsource.credential.trace_bind fun c d hcd => ?_
    rw [← Authorizer.trace_authorize_masked, hcd, Authorizer.trace_authorize_masked]

/-- A visit is seen alike, and leaves signers that differ in secrets only. -/
theorem visit (h : Alike setup s t) (v : Visit) :
    Alike setup (visit setup s v).1 (visit setup t v).1 ∧
      (visit setup s v).2.trace = (visit setup t v).2.trace := by
  unfold Signers.visit
  rw [h.count]
  split
  · cases v.use with
    | clone => exact ⟨⟨h.environment, h.cell, h.loads, congrArg (· + 1) h.count⟩, rfl⟩
    | rotate c =>
      simp only [perform, rotate]
      split
      · exact ⟨⟨h.environment, rfl, h.loads, h.count⟩, rfl⟩
      · exact ⟨h, rfl⟩
    | credential =>
      have hsource := h.source v.now
      simp only [perform, credential_eq]
      exact ⟨h.take hsource, hsource.credential.trace_eq⟩
    | sign head expiresIn => exact h.perform_sign v.now head expiresIn
  · exact ⟨h, rfl⟩

/-- So it is for visits one after the other. -/
theorem answers (h : Alike setup s t) (visits : List Visit) :
    (answers setup s visits).map Answer.trace = (answers setup t visits).map Answer.trace := by
  induction visits generalizing s t with
  | nil => rfl
  | cons v visits ih =>
    obtain ⟨hafter, htrace⟩ := h.visit v
    rw [Signers.answers, Signers.answers, List.map_cons, List.map_cons, htrace, ih hafter]

end Alike

/-- Nothing is seen of secrets but what their redacted texts show. Signers that load credentials from
environments that look alike log the same whatever they are used for, and end the program alike. -/
theorem trace_answers_of_looksLike {e f : Environment} (h : e.LooksLike f) (he : e.IsReadable)
    (hf : f.IsReadable) (authorizer : Authorizer) (visits : List Visit) :
    (answers ⟨.environment, authorizer⟩ { environment := e } visits).map Answer.trace =
      (answers ⟨.environment, authorizer⟩ { environment := f } visits).map Answer.trace := by
  have halike : Alike ⟨.environment, authorizer⟩ { environment := e } { environment := f } :=
    ⟨Provider.loadsAlike_environment h he hf, rfl, rfl, rfl⟩
  exact halike.answers visits

/-- An account with a key. -/
def keyEnvironment (key : String) : Environment :=
  .ofPairs [(Settings.accountNameVariable, "a"), (Settings.accountKeyVariable, key)]

theorem value?_keyEnvironment (key name : String) :
    (keyEnvironment key).value? name =
      if name = Settings.accountKeyVariable then some key
      else if name = Settings.accountNameVariable then some "a" else none := by
  change List.lookup name [(Settings.accountKeyVariable, key), (Settings.accountNameVariable, "a")] = _
  rw [List.lookup_cons, List.lookup_cons, List.lookup_nil]
  by_cases hkey : name = Settings.accountKeyVariable
  · simp [hkey]
  by_cases hname : name = Settings.accountNameVariable
  · simp [hname, Settings.accountKeyVariable, Settings.accountNameVariable]
  · rw [beq_false_of_ne hkey, beq_false_of_ne hname, if_neg hkey, if_neg hname]

theorem looksLike_keyEnvironment {key key' : String} (h : redacted key = redacted key') :
    (keyEnvironment key).LooksLike (keyEnvironment key') where
  others name hname := by
    have hkey : name ≠ Settings.accountKeyVariable := fun he =>
      hname (he ▸ List.mem_cons_self)
    rw [value?_keyEnvironment, value?_keyEnvironment, if_neg hkey, if_neg hkey]
  secrets name _ := by
    rw [value?_keyEnvironment, value?_keyEnvironment]
    split
    · rw [Option.map_some, Option.map_some, h]
    · rfl

theorem isReadable_keyEnvironment {key : String} (h : (Base64.decode? key).isSome = true) :
    (keyEnvironment key).IsReadable where
  key text htext := by
    have hget : (keyEnvironment key).get? Settings.accountKeyVariable = some key := by
      rw [Environment.get?_eq_value? _ (by decide +kernel), value?_keyEnvironment, if_pos rfl]
    simp only [Environment.first?, List.findSome?, hget] at htext
    exact Option.some.inj htext ▸ h
  token text htext := by
    have hget : (keyEnvironment key).get? Settings.sasTokenVariable = none := by
      rw [Environment.get?_eq_value? _ (by decide +kernel), value?_keyEnvironment,
        if_neg (by decide +kernel), if_neg (by decide +kernel)]
    cases hget.symm.trans htext

/-- A key is loaded, and is used for a signature in the headers and for one in the query. -/
def signingVisits : List Visit :=
  [⟨0, Authorizer.startOf1970, .clone⟩, ⟨1, Authorizer.startOf1970, .credential⟩,
    ⟨0, Authorizer.startOf1970, .sign Authorizer.accentedHead none⟩,
    ⟨1, Authorizer.startOf1970, .sign Authorizer.accentedHead (some Authorizer.oneSecond)⟩]

theorem trace_answers_of_keyEnvironment :
    (keyEnvironment "a2V5").LooksLike (keyEnvironment "eHl6") ∧
      (keyEnvironment "a2V5").IsReadable ∧ (keyEnvironment "eHl6").IsReadable ∧
      (answers .standard { environment := keyEnvironment "a2V5" } signingVisits).map
          Answer.trace =
        (answers .standard { environment := keyEnvironment "eHl6" } signingVisits).map
          Answer.trace := by
  have hlooks := looksLike_keyEnvironment (by decide +kernel : redacted "a2V5" = redacted "eHl6")
  have hread := isReadable_keyEnvironment (by decide +kernel : (Base64.decode? "a2V5").isSome = true)
  have hread' := isReadable_keyEnvironment (by decide +kernel : (Base64.decode? "eHl6").isSome = true)
  exact ⟨hlooks, hread, hread', trace_answers_of_looksLike hlooks hread hread' {} signingVisits⟩

end Signers

end StorageAccess
