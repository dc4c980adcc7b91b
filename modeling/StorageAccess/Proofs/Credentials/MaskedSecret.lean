import Mathlib.Data.List.TakeWhile
import StorageAccess.Credentials.Settings
import StorageAccess.Proofs.Bytes.SignatureText
import StorageAccess.Proofs.Text.Redaction

/-! Secrets that look alike. A text in the log may show whether there is a secret, and of a long one both
ends; where it shows the same of two, settings look the same, and credentials differ in secrets only. -/
namespace StorageAccess

/-- Whether there is a secret, and nothing else of it. -/
def masked (s : String) : String := if s = "" then "" else "***"

theorem masked_eq_masked_iff {s t : String} : masked s = masked t ↔ (s = "" ↔ t = "") := by
  unfold masked
  split <;> split <;> simp_all

theorem masked_bne_empty (s : String) : (masked s != "") = (s != "") := by
  unfold masked
  split <;> simp_all

theorem masked_congr {s t : String} (h : redacted s = redacted t) : masked s = masked t := by
  rw [masked_eq_masked_iff, ← redacted_eq_empty_iff, h, redacted_eq_empty_iff]

theorem redacted_getD (s? : Option String) :
    redacted (s?.getD "") = (s?.map redacted).getD "EMPTY" := by
  cases s? <;> rfl

/-- A key of no bytes, or the same key for all others. -/
def AccountKey.masked (key : AccountKey) : AccountKey :=
  if key.encoded = "" then ⟨"", [], rfl⟩ else .threeBytes

theorem AccountKey.isEmpty_bytes_masked (key : AccountKey) :
    key.masked.bytes.isEmpty = key.bytes.isEmpty := by
  rw [Bool.eq_iff_iff, List.isEmpty_iff, List.isEmpty_iff, bytes_eq_nil_iff, bytes_eq_nil_iff,
    masked]
  split
  · simp_all
  · rename_i h
    exact iff_of_false (by decide) h

theorem AccountKey.exists_ofText {text : String} (h : (Base64.decode? text).isSome = true) :
    ∃ key, ofText text = .ok key ∧ key.encoded = text := by
  obtain ⟨bytes, hbytes⟩ := Option.isSome_iff_exists.mp h
  exact ⟨⟨text, bytes, hbytes⟩, ofText_eq_ok_iff.mpr rfl, rfl⟩

theorem SasToken.withoutLeadingMarks_eq_empty_iff {s : String} :
    withoutLeadingMarks s = "" ↔ ∀ c ∈ s.toList, c = '?' := by
  rw [withoutLeadingMarks, ← String.toList_inj, String.toList_ofList, String.toList_empty,
    List.dropWhile_eq_nil_iff]
  simp

namespace Credential

/-- The credential with its secret masked. -/
def masked : Credential → Credential
  | .sharedKey account key => .sharedKey account key.masked
  | .sasToken token => .sasToken (StorageAccess.masked token)
  | .bearer token expires => .bearer (StorageAccess.masked token) expires

theorem isValid_masked (now : Instant) (c : Credential) : c.masked.isValid now = c.isValid now := by
  cases c with
  | sharedKey account key => simp only [masked, isValid, AccountKey.isEmpty_bytes_masked]
  | sasToken token => simp only [masked, isValid, masked_bne_empty]
  | bearer token expires => simp only [masked, isValid, masked_bne_empty]

theorem isUsable_map_masked (now : Instant) (c : Option Credential) :
    isUsable now (c.map masked) = isUsable now c := by
  cases c with
  | none => rfl
  | some c => exact isValid_masked now c

end Credential

namespace Environment

open Settings

/-- The variables that hold secrets. -/
def secretVariables : List String :=
  [accountKeyVariable, accountKeyAlias, sasTokenVariable, bearerTokenVariable]

/-- All but the secrets is the same, and the secrets are redacted to the same texts. -/
structure LooksLike (e f : Environment) : Prop where
  others : ∀ name, name ∉ secretVariables → e.value? name = f.value? name
  secrets : ∀ name ∈ secretVariables,
    (e.value? name).map redacted = (f.value? name).map redacted

/-- A key is in Base64, and a token has something in it besides question marks. -/
structure IsReadable (env : Environment) : Prop where
  key : ∀ text, env.first? [accountKeyVariable, accountKeyAlias] = some text →
    (Base64.decode? text).isSome = true
  token : ∀ text, env.get? sasTokenVariable = some text → text ≠ "" →
    ∃ c ∈ text.toList, c ≠ '?'

theorem map_first? {α : Type} (g : String → α) (env : Environment) (first second : String) :
    (env.first? [first, second]).map g = ((env.get? first).map g <|> (env.get? second).map g) := by
  simp only [first?, List.findSome?]
  cases env.get? first <;> cases env.get? second <;> rfl

end Environment

namespace Settings

/-- Settings that are shown alike. -/
structure LooksLike (s t : Settings) : Prop where
  accountName : s.accountName = t.accountName
  accountKey : s.accountKey.map redacted = t.accountKey.map redacted
  sasToken : s.sasToken.map redacted = t.sasToken.map redacted
  bearerToken : s.bearerToken.map redacted = t.bearerToken.map redacted

/-- Settings whose secrets can be read. -/
structure IsReadable (s : Settings) : Prop where
  key : ∀ text, s.accountKey = some text → (Base64.decode? text).isSome = true
  token : ∀ text, s.sasToken = some text → text ≠ "" → ∃ c ∈ text.toList, c ≠ '?'

variable {s t : Settings} {e f : Environment}

theorem LooksLike.describe (h : s.LooksLike t) : s.describe = t.describe := by
  unfold Settings.describe
  rw [redacted_getD, redacted_getD, redacted_getD, redacted_getD, redacted_getD, redacted_getD,
    h.accountName, h.accountKey, h.sasToken, h.bearerToken]

/-- The variables are found under their names. -/
theorem get?_eq_value?_of_mem (env : Environment) {name : String}
    (h : name ∈ accountNameVariable :: accountNameAlias :: Environment.secretVariables) :
    env.get? name = env.value? name := by
  have hwhole : ∀ name ∈ accountNameVariable :: accountNameAlias :: Environment.secretVariables,
      name.toList.all (· != '=') = true := by decide +kernel
  exact env.get?_eq_value? (hwhole name h)

theorem map_redacted_get? (h : e.LooksLike f) (name : String)
    (hname : name ∈ Environment.secretVariables) :
    (e.get? name).map redacted = (f.get? name).map redacted := by
  rw [get?_eq_value?_of_mem e (by simp [hname]), get?_eq_value?_of_mem f (by simp [hname])]
  exact h.secrets name hname

theorem get?_eq_of_looksLike (h : e.LooksLike f) (name : String)
    (hname : name ∈ [accountNameVariable, accountNameAlias]) : e.get? name = f.get? name := by
  have hother : ∀ name ∈ [accountNameVariable, accountNameAlias],
      name ∉ Environment.secretVariables := by decide +kernel
  have hmem : name ∈ accountNameVariable :: accountNameAlias :: Environment.secretVariables :=
    List.mem_append_left Environment.secretVariables hname
  rw [get?_eq_value?_of_mem e hmem, get?_eq_value?_of_mem f hmem]
  exact h.others name (hother name hname)

theorem looksLike_orElse (h : e.LooksLike f) :
    (({} : Settings).orElse e).LooksLike (({} : Settings).orElse f) where
  accountName := by
    change e.first? _ = f.first? _
    simp only [Environment.first?, List.findSome?,
      get?_eq_of_looksLike h accountNameVariable (by simp),
      get?_eq_of_looksLike h accountNameAlias (by simp)]
  accountKey := by
    change (e.first? _).map _ = (f.first? _).map _
    rw [Environment.map_first?, Environment.map_first?,
      map_redacted_get? h accountKeyVariable (by simp [Environment.secretVariables]),
      map_redacted_get? h accountKeyAlias (by simp [Environment.secretVariables])]
  sasToken := map_redacted_get? h sasTokenVariable (by simp [Environment.secretVariables])
  bearerToken := map_redacted_get? h bearerTokenVariable (by simp [Environment.secretVariables])

theorem isReadable_orElse (h : e.IsReadable) : (({} : Settings).orElse e).IsReadable :=
  ⟨h.key, h.token⟩

theorem masked_withoutLeadingMarks {text : String} (h : text ≠ "" → ∃ c ∈ text.toList, c ≠ '?') :
    masked (SasToken.withoutLeadingMarks text) = masked text := by
  rw [masked_eq_masked_iff, SasToken.withoutLeadingMarks_eq_empty_iff]
  constructor
  · intro hmarks
    refine Decidable.byContradiction fun hne => ?_
    obtain ⟨c, hc, hmark⟩ := h hne
    exact hmark (hmarks c hc)
  · rintro rfl
    simp

/-- Keys that are redacted alike are masked alike. -/
theorem map_masked_ofSharedKey {first second : String} (account : String)
    (hfirst : (Base64.decode? first).isSome = true) (hsecond : (Base64.decode? second).isSome = true)
    (h : redacted first = redacted second) :
    (Credential.ofSharedKey account first).map Credential.masked =
      (Credential.ofSharedKey account second).map Credential.masked := by
  obtain ⟨key, hkey, rfl⟩ := AccountKey.exists_ofText hfirst
  obtain ⟨other, hother, rfl⟩ := AccountKey.exists_ofText hsecond
  have hempty := masked_eq_masked_iff.mp (masked_congr h)
  rw [Credential.ofSharedKey, Credential.ofSharedKey, hkey, hother]
  change Except.ok (Credential.sharedKey account key.masked) =
    Except.ok (Credential.sharedKey account other.masked)
  simp only [AccountKey.masked, hempty]

theorem cases_of_map_redacted {first? second? : Option String}
    (h : first?.map redacted = second?.map redacted) :
    first? = none ∧ second? = none ∨
      ∃ first second, first? = some first ∧ second? = some second ∧
        redacted first = redacted second := by
  cases first? <;> cases second? <;> simp_all

/-- Credentials from settings that look alike differ in their secrets only. -/
theorem LooksLike.credential (h : s.LooksLike t) (hs : s.IsReadable) (ht : t.IsReadable) :
    s.credential.map (Option.map Credential.masked) =
      t.credential.map (Option.map Credential.masked) := by
  have hmap : ∀ x : Except Error Credential,
      (x.map some).map (Option.map Credential.masked) = (x.map Credential.masked).map some := by
    rintro (_ | _) <;> rfl
  unfold Settings.credential
  rw [h.accountName]
  obtain ⟨hkey, hkey'⟩ | ⟨key, key', hkey, hkey', hkeys⟩ := cases_of_map_redacted h.accountKey
  · rw [hkey, hkey']
    obtain ⟨htoken, htoken'⟩ | ⟨token, token', htoken, htoken', htokens⟩ :=
      cases_of_map_redacted h.sasToken
    · rw [htoken, htoken']
      obtain ⟨hb, hb'⟩ | ⟨bearer, bearer', hb, hb', hbearers⟩ := cases_of_map_redacted h.bearerToken
      · rw [hb, hb']
      · rw [hb, hb']
        have hmasked := masked_congr hbearers
        cases t.accountName <;> simp [Except.map, Credential.masked, hmasked]
    · rw [htoken, htoken']
      have hmasked := (masked_withoutLeadingMarks (hs.token token htoken)).trans
        ((masked_congr htokens).trans (masked_withoutLeadingMarks (ht.token token' htoken')).symm)
      cases t.accountName <;>
        simp [Except.map, Credential.masked, Credential.ofSasToken, hmasked]
  · rw [hkey, hkey']
    cases t.accountName with
    | none => rfl
    | some account =>
      have hmasked := map_masked_ofSharedKey account (hs.key key hkey) (ht.key key' hkey') hkeys
      simp only [hmap, hmasked]

end Settings
end StorageAccess
