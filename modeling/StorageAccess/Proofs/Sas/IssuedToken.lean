import StorageAccess.Proofs.Bytes.SignatureText
import StorageAccess.Proofs.Outcome
import StorageAccess.Proofs.Web.FormRoundTrip
import StorageAccess.Sas.Grant

/-! Tokens as they are issued. The fields of a grant are laid out under different names, the empty ones
are left out, and the signature comes last. Such a token is read as it was written, and whoever puts
the signed text together again from what was read gets the text that was signed. -/
namespace StorageAccess

namespace SasToken

theorem foldl_push (fields : List (String × String)) (t : SasToken) :
    fields.foldl (fun t f => t.push f.1 f.2) t = ⟨t.pairs ++ fields.filter (·.2 ≠ "")⟩ := by
  induction fields generalizing t with
  | nil => simp
  | cons f fields ih =>
    rw [List.foldl_cons, ih, push]
    by_cases hf : f.2 = "" <;> simp [hf]

/-- Where names are different, a field has the value that it was given. -/
theorem get?_of_mem {pairs : List (String × String)} {name value : String}
    (hd : (pairs.map (·.1)).Nodup) (h : (name, value) ∈ pairs) :
    get? ⟨pairs⟩ name = some value := by
  induction pairs with
  | nil => cases h
  | cons p rest ih =>
    rw [List.map_cons, List.nodup_cons] at hd
    obtain rfl | hrest := List.mem_cons.mp h
    · simp [get?]
    · have hne : p.1 ≠ name := by
        rintro rfl
        exact hd.1 (List.mem_map.mpr ⟨_, hrest, rfl⟩)
      rw [← ih hd.2 hrest]
      simp [get?, hne]

theorem get?_foldl_push {fields : List (String × String)} {name value : String}
    (hd : (fields.map (·.1)).Nodup) (h : (name, value) ∈ fields) :
    (fields.foldl (fun (t : SasToken) f => t.push f.1 f.2) ⟨[]⟩).get? name =
      if value = "" then none else some value := by
  rw [foldl_push, List.nil_append]
  by_cases hv : value = ""
  · have hnone : (fields.filter (·.2 ≠ "")).find? (·.1 == name) = none := by
      rw [List.find?_eq_none]
      intro p hp he
      obtain ⟨hp, hne⟩ := List.mem_filter.mp hp
      have hvalue := get?_of_mem hd (show (name, p.2) ∈ fields from beq_iff_eq.mp he ▸ hp)
      rw [get?_of_mem hd h, Option.some.injEq, hv] at hvalue
      simp [← hvalue] at hne
    rw [get?, hnone, if_pos hv]
    rfl
  · have hsub : ((fields.filter (·.2 ≠ "")).map (·.1)).Sublist (fields.map (·.1)) :=
      List.filter_sublist.map _
    rw [if_neg hv]
    exact get?_of_mem (hd.sublist hsub) (List.mem_filter.mpr ⟨h, by simpa using hv⟩)

/-- Fields that are left out read as what was left out: nothing. -/
theorem field_foldl_push {fields : List (String × String)} {name value : String}
    (hd : (fields.map (·.1)).Nodup) (h : (name, value) ∈ fields) :
    (fields.foldl (fun (t : SasToken) f => t.push f.1 f.2) ⟨[]⟩).field name = value := by
  rw [field, get?_foldl_push hd h]
  by_cases hv : value = "" <;> simp [hv]

/-- Fields that are ready to be signed. -/
structure IsUnsigned (t : SasToken) : Prop where
  distinct : (t.pairs.map (·.1)).Nodup
  nonempty : ∀ p ∈ t.pairs, p.2 ≠ ""
  unsigned : "sig" ∉ t.pairs.map (·.1)

theorem isUnsigned_foldl_push {fields : List (String × String)} (names : List String)
    (hn : fields.map (·.1) = names) (hd : names.Nodup) (hs : "sig" ∉ names) :
    (fields.foldl (fun (t : SasToken) f => t.push f.1 f.2) ⟨[]⟩).IsUnsigned := by
  rw [foldl_push, List.nil_append]
  have hsub : ((fields.filter (·.2 ≠ "")).map (·.1)).Sublist names :=
    hn ▸ List.filter_sublist.map _
  refine ⟨hd.sublist hsub, fun p hp => ?_, fun h => hs (hsub.subset h)⟩
  simpa using (List.mem_filter.mp hp).2

theorem IsUnsigned.get?_eq {t : SasToken} (h : t.IsUnsigned) (name : String) :
    t.get? name = if t.field name = "" then none else some (t.field name) := by
  cases hg : t.get? name with
  | none => simp [field, hg]
  | some value =>
    obtain ⟨p, hp, hvalue⟩ := Option.map_eq_some_iff.mp hg
    have hne : value ≠ "" := hvalue ▸ h.nonempty p (List.mem_of_find?_eq_some hp)
    simp [field, hg, hne]

theorem get?_push_of_ne {t : SasToken} {name key value : String} (h : key ≠ name) :
    (t.push key value).get? name = t.get? name := by
  unfold push
  split
  · rfl
  · simp [get?, List.find?_append, h]

theorem field_push_of_ne {t : SasToken} {name key value : String} (h : key ≠ name) :
    (t.push key value).field name = t.field name := by
  rw [field, field, get?_push_of_ne h]

/-- The signature is not among what it covers. -/
theorem accountStringToSign_push_sig (t : SasToken) (value account : String) :
    (t.push "sig" value).accountStringToSign account = t.accountStringToSign account := by
  simp [accountStringToSign, field_push_of_ne]

theorem scopeStringToSign_push_sig (t : SasToken) (value account : String) (scope : Scope) :
    (t.push "sig" value).scopeStringToSign account scope = t.scopeStringToSign account scope := by
  cases h : scope.service <;>
    simp [scopeStringToSign, serviceLines, responseHeaderNames, keyRangeNames, h, field_push_of_ne]

theorem withoutLeadingMarks_append (n : Nat) {s : String} (h : s.toList.head? ≠ some '?') :
    withoutLeadingMarks (String.ofList (List.replicate n '?') ++ s) = s := by
  have hmarks : ∀ c ∈ List.replicate n '?', (c == '?') = true := fun c hc =>
    beq_iff_eq.mpr (List.eq_of_mem_replicate hc)
  have hs : s.toList.dropWhile (· == '?') = s.toList := by
    cases hl : s.toList with
    | nil => rfl
    | cons c cs =>
      rw [List.dropWhile_cons, if_neg]
      simpa [hl] using h
  rw [withoutLeadingMarks, String.toList_append, String.toList_ofList,
    List.dropWhile_append_of_pos hmarks, hs, String.ofList_toList]

/-- A query with a field in it is read as a form, whatever question marks come before it. -/
theorem ofText_append (n : Nat) {s : String} (hs : '?' ∉ s.toList) (hd : Form.decode s ≠ []) :
    ofText (String.ofList (List.replicate n '?') ++ s) = .ok ⟨Form.decode s⟩ := by
  have hne : s ≠ "" := by
    rintro rfl
    exact hd rfl
  have hhead : s.toList.head? ≠ some '?' := fun hh => hs (List.mem_of_mem_head? hh)
  rw [ofText, withoutLeadingMarks_append n hhead, if_neg hne]

theorem ofText_text (n : Nat) {t : SasToken} (h : t.pairs ≠ []) :
    ofText (String.ofList (List.replicate n '?') ++ t.text) = .ok t := by
  have hd : Form.decode t.text = t.pairs := Form.decode_encode t.pairs
  have hmark : '?' ∉ t.text.toList := Form.questionMark_not_mem_encode t.pairs
  rw [ofText_append n hmark (hd.symm ▸ h), hd]

/-- What holds of every token that is issued for a grant with a given signed text. -/
structure IsIssued (t : SasToken) (text : SasToken → String) (s : String) (key : AccountKey) :
    Prop where
  distinct : (t.pairs.map (·.1)).Nodup
  nonempty : ∀ p ∈ t.pairs, p.2 ≠ ""
  last : t.pairs.getLast? = some ("sig", key.sign s)
  reads : ofText ("?" ++ t.text) = .ok t
  signed : text t = s
  signature : t.signature? = some (key.sign s)

theorem IsUnsigned.isIssued {t : SasToken} (h : t.IsUnsigned) (text : SasToken → String)
    (key : AccountKey) (ht : ∀ value, text (t.push "sig" value) = text t) :
    (t.push "sig" (key.sign (text t))).IsIssued text (text t) key := by
  have hpairs : (t.push "sig" (key.sign (text t))).pairs =
      t.pairs ++ [("sig", key.sign (text t))] := by
    rw [push, if_neg (key.sign_ne_empty _)]
  refine ⟨?_, ?_, ?_, ?_, ht _, ?_⟩
  · rw [hpairs, List.map_append, List.nodup_append]
    refine ⟨h.distinct, by simp, ?_⟩
    rintro name hn other ho rfl
    rw [List.mem_singleton.mp ho] at hn
    exact h.unsigned hn
  · intro p hp
    rw [hpairs] at hp
    obtain hp | hp := List.mem_append.mp hp
    · exact h.nonempty p hp
    · rw [List.mem_singleton.mp hp]
      exact key.sign_ne_empty _
  · simp [hpairs]
  · exact ofText_text 1 (by simp [hpairs])
  · have hnone : t.pairs.find? (·.1 == "sig") = none := by
      rw [List.find?_eq_none]
      intro p hp he
      exact h.unsigned (List.mem_map.mpr ⟨p, hp, beq_iff_eq.mp he⟩)
    simp [signature?, get?, hpairs, List.find?_append, hnone]

end SasToken

namespace AccountGrant

theorem token_eq_ok {g : AccountGrant} {t : SasToken} : g.token.outcome = .ok t ↔
    ∃ u, g.unsigned = .ok u ∧ u.push "sig" (g.key.sign (u.accountStringToSign g.account)) = t := by
  simp [token, bind_eq_ok, Action.outcome_ofExcept_eq_ok]

theorem stringToSign_of_unsigned {g : AccountGrant} {u : SasToken} (h : g.unsigned = .ok u) :
    g.stringToSign = .ok (u.accountStringToSign g.account) := by
  rw [stringToSign, h]
  rfl

/-- The names of the fields in the order in which they are laid out. -/
def fieldNames : List String := ["sv", "ss", "srt", "sp", "st", "se", "sip", "spr"]

theorem exists_fields_of_unsigned {g : AccountGrant} {u : SasToken} (hu : g.unsigned = .ok u) :
    ∃ permissions, g.policy.permissions.inOrder "racwdlup" = .ok permissions ∧
      u = (g.fields permissions).foldl (fun t f => t.push f.1 f.2) ⟨[]⟩ := by
  obtain ⟨-, -, hu⟩ := bind_eq_ok.mp hu
  obtain ⟨permissions, hp, hu⟩ := bind_eq_ok.mp hu
  exact ⟨permissions, hp, pure_eq_ok.mp hu⟩

theorem isUnsigned_unsigned {g : AccountGrant} {u : SasToken} (h : g.unsigned = .ok u) :
    u.IsUnsigned := by
  obtain ⟨permissions, -, rfl⟩ := exists_fields_of_unsigned h
  exact SasToken.isUnsigned_foldl_push fieldNames rfl (by decide) (by decide)

end AccountGrant

namespace ScopeGrant

theorem token_eq_ok {g : ScopeGrant} {t : SasToken} : g.token.outcome = .ok t ↔
    ∃ u, g.unsigned = .ok u ∧
      u.push "sig" (g.key.sign (u.scopeStringToSign g.account g.scope)) = t := by
  simp [token, bind_eq_ok, Action.outcome_ofExcept_eq_ok]

theorem stringToSign_of_unsigned {g : ScopeGrant} {u : SasToken} (h : g.unsigned = .ok u) :
    g.stringToSign = .ok (u.scopeStringToSign g.account g.scope) := by
  rw [stringToSign, h]
  rfl

def fieldNames : List String :=
  ["sv", "sr", "tn", "sp", "st", "se", "si", "sip", "spr", "spk", "srk", "epk", "erk", "rscc",
    "rscd", "rsce", "rscl", "rsct", "api-version"]

theorem exists_fields_of_unsigned {g : ScopeGrant} {u : SasToken} (hu : g.unsigned = .ok u) :
    ∃ permissions, g.policy.permissions.inOrder g.scope.permissionOrder = .ok permissions ∧
      u = (g.fields permissions).foldl (fun t f => t.push f.1 f.2) ⟨[]⟩ := by
  obtain ⟨-, -, hu⟩ := bind_eq_ok.mp hu
  obtain ⟨permissions, hp, hu⟩ := bind_eq_ok.mp hu
  exact ⟨permissions, hp, pure_eq_ok.mp hu⟩

theorem isUnsigned_unsigned {g : ScopeGrant} {u : SasToken} (h : g.unsigned = .ok u) :
    u.IsUnsigned := by
  obtain ⟨permissions, -, rfl⟩ := exists_fields_of_unsigned h
  exact SasToken.isUnsigned_foldl_push fieldNames rfl (by decide) (by decide)

end ScopeGrant

/-- Every token that is issued can be read and verified by whoever has the key. -/
theorem isIssued_token :
    (∀ (g : AccountGrant) (t : SasToken), g.token.outcome = .ok t →
      ∃ s, g.stringToSign = .ok s ∧
        t.IsIssued (SasToken.accountStringToSign · g.account) s g.key) ∧
    ∀ (g : ScopeGrant) (t : SasToken), g.token.outcome = .ok t →
      ∃ s, g.stringToSign = .ok s ∧
        t.IsIssued (SasToken.scopeStringToSign · g.account g.scope) s g.key := by
  constructor
  · intro g t h
    obtain ⟨u, hu, rfl⟩ := AccountGrant.token_eq_ok.mp h
    exact ⟨_, AccountGrant.stringToSign_of_unsigned hu,
      (AccountGrant.isUnsigned_unsigned hu).isIssued (SasToken.accountStringToSign · g.account)
        g.key fun value => u.accountStringToSign_push_sig value g.account⟩
  · intro g t h
    obtain ⟨u, hu, rfl⟩ := ScopeGrant.token_eq_ok.mp h
    exact ⟨_, ScopeGrant.stringToSign_of_unsigned hu,
      (ScopeGrant.isUnsigned_unsigned hu).isIssued (SasToken.scopeStringToSign · g.account g.scope)
        g.key fun value => u.scopeStringToSign_push_sig value g.account g.scope⟩

def momentGrant : AccountGrant where
  account := "a"
  key := .threeBytes
  policy := { permissions := .full, start := some ⟨0, 0, by decide⟩, expiry := some ⟨0, 0, by decide⟩ }

/-- A grant whose texts have separators and letters outside ASCII in them. -/
def accentedGrant : ScopeGrant where
  account := "é"
  key := .threeBytes
  scope := .table "t&="
  policy := { identifier := some "à ?+" }

theorem isIssued_momentGrant_accentedGrant :
    (∃ t, momentGrant.token.outcome = .ok t ∧ ∃ s, momentGrant.stringToSign = .ok s ∧
      t.IsIssued (SasToken.accountStringToSign · "a") s .threeBytes) ∧
    ∃ t, accentedGrant.token.outcome = .ok t ∧ ∃ s, accentedGrant.stringToSign = .ok s ∧
      t.IsIssued (SasToken.scopeStringToSign · "é" (.table "t&=")) s .threeBytes := by
  have hm := AccountGrant.token_eq_ok.mpr ⟨_, (rfl : momentGrant.unsigned = .ok _), rfl⟩
  have ha := ScopeGrant.token_eq_ok.mpr ⟨_, (rfl : accentedGrant.unsigned = .ok _), rfl⟩
  exact ⟨⟨_, hm, isIssued_token.1 momentGrant _ hm⟩, ⟨_, ha, isIssued_token.2 accentedGrant _ ha⟩⟩

end StorageAccess
