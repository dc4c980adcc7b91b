import StorageAccess.Proofs.Sas.IssuedToken
import StorageAccess.Proofs.Sas.Letters
import StorageAccess.Proofs.Trace

/-! Which grants of one resource are good. Checking a grant, asking for what is to be signed and asking for
the token all come to the same end, and the token lists what the policy permits. -/
namespace StorageAccess

namespace Policy

theorem checkIdentifierText_eq_ok_iff {id : String} :
    checkIdentifierText id = .ok () ↔ 1 ≤ id.length ∧ id.length ≤ 64 := by
  have hempty : id = "" ↔ id.length = 0 := by
    rw [← String.length_toList, List.length_eq_zero_iff, String.toList_eq_nil_iff]
  simp only [checkIdentifierText, hempty, String.length_toList]
  by_cases hzero : id.length = 0
  · simp [hzero]
  · by_cases hlong : id.length > 64
    · simp [hzero, hlong]
    · simp only [hzero, hlong, if_false, true_iff]
      omega

theorem checkIdentifier_eq_ok_iff {p : Policy} : p.checkIdentifier = .ok () ↔
    ∀ id, p.identifier = some id → 1 ≤ id.length ∧ id.length ≤ 64 := by
  unfold checkIdentifier
  cases p.identifier with
  | none => simp
  | some id => simp [checkIdentifierText_eq_ok_iff]

end Policy

/-- The resources that are read like files, or hold what is. -/
def Scope.HasContent : Scope → Prop
  | .blob _ _ | .container _ | .file _ _ | .share _ => True
  | .queue _ | .table _ => False

theorem Scope.hasContent_iff {scope : Scope} :
    scope.HasContent ↔ scope.service = .blob ∨ scope.service = .file := by
  cases scope <;> simp [HasContent, service]

theorem Scope.service_eq_table_iff {scope : Scope} :
    scope.service = .table ↔ ∃ table, scope = .table table := by
  cases scope <;> simp [service]

theorem Scope.nodup_permissionOrder (scope : Scope) : scope.permissionOrder.toList.Nodup := by
  cases scope <;> simp only [permissionOrder] <;> decide

/-- The letters of permissions, each once and in order. -/
structure IsListing (text order : String) (permissions : CodeSet Permission) : Prop where
  ordered : text.toList.Sublist order.toList
  distinct : text.toList.Nodup
  mem_iff (c : Char) : c ∈ text.toList ↔ ∃ p, permissions.has p = true ∧ Coded.letter p = c

theorem isListing_of_inOrder {permissions : CodeSet Permission} {order text : String}
    (hd : order.toList.Nodup) (h : permissions.inOrder order = .ok text) :
    IsListing text order permissions := by
  obtain ⟨hall, rfl⟩ := CodeSet.inOrder_eq_ok_iff.mp h
  have hsub : (order.toList.filter permissions.hasLetter).Sublist order.toList := List.filter_sublist
  refine ⟨?_, ?_, fun c => ?_⟩
  · rwa [String.toList_ofList]
  · rw [String.toList_ofList]
    exact hd.sublist hsub
  · rw [String.toList_ofList, List.mem_filter, CodeSet.hasLetter_iff]
    constructor
    · exact And.right
    · rintro ⟨p, hp, rfl⟩
      exact ⟨hall p hp, p, hp, rfl⟩

theorem IsListing.eq_empty_iff {text order : String} {permissions : CodeSet Permission}
    (h : IsListing text order permissions) : text = "" ↔ permissions.isEmpty = true := by
  rw [← String.toList_eq_nil_iff, List.eq_nil_iff_forall_not_mem, CodeSet.isEmpty_iff]
  constructor
  · intro hnone p
    exact Bool.eq_false_iff.mpr fun hp => hnone _ ((h.mem_iff _).mpr ⟨p, hp, rfl⟩)
  · rintro hnone c hc
    obtain ⟨p, hp, -⟩ := (h.mem_iff c).mp hc
    exact absurd hp (Bool.eq_false_iff.mp (hnone p))

namespace ScopeGrant

/-- What is asked of a grant. Expiry and permissions may be left to a stored policy. -/
structure IsGrantable (g : ScopeGrant) : Prop where
  identifier (id : String) (h : g.policy.identifier = some id) : 1 ≤ id.length ∧ id.length ≤ 64
  window (start expiry : Instant) (hs : g.policy.start = some start)
    (he : g.policy.expiry = some expiry) : start ≤ expiry
  sufficient (h : g.policy.identifier = none) :
    g.policy.expiry ≠ none ∧ ∃ p, g.policy.permissions.has p = true
  keyRange (h : g.keyRange ≠ {}) : ∃ table, g.scope = .table table
  responseHeaders (h : g.responseHeaders ≠ {}) : g.scope.HasContent
  permissions (p : Permission) (h : g.policy.permissions.has p = true) :
    Coded.letter p ∈ g.scope.permissionOrder.toList

theorem checkSufficient_eq_ok_iff {p : Policy} : checkSufficient p = .ok () ↔
    (p.identifier = none → p.expiry ≠ none ∧ ∃ x, p.permissions.has x = true) := by
  have hsome : (∃ x, p.permissions.has x = true) ↔ ¬p.permissions.isEmpty = true := by
    simp [CodeSet.isEmpty_iff]
  unfold checkSufficient
  split
  · rename_i hid
    rw [guard_eq_ok, throw_if_eq_ok, hsome, Option.isNone_iff_eq_none]
    exact ⟨fun h _ => h, fun h => h (Option.isNone_iff_eq_none.mp hid)⟩
  · rename_i hid
    exact ⟨fun _ h => absurd (Option.isNone_iff_eq_none.mpr h) hid, fun _ => rfl⟩

/-- The checks pass together exactly if each of them does. -/
theorem validate_eq_ok_iff {g : ScopeGrant} : g.validate = .ok () ↔ g.IsGrantable := by
  simp only [validate, bind_unit_eq_ok, guard_eq_ok, discard_eq_ok, Policy.checkIdentifier_eq_ok_iff,
    Policy.checkWindow_eq_ok_iff, checkSufficient_eq_ok_iff, CodeSet.exists_inOrder_iff]
  constructor
  · rintro ⟨hid, hwindow, hsufficient, hrange, hheaders, hpermissions⟩
    refine ⟨hid, hwindow, hsufficient, fun h => ?_, fun h => ?_, hpermissions⟩
    · exact Scope.service_eq_table_iff.mp (Decidable.not_not.mp fun ht => hrange ⟨h, ht⟩)
    · exact Scope.hasContent_iff.mpr (Decidable.or_iff_not_not_and_not.mpr fun hn => hheaders ⟨h, hn⟩)
  · rintro ⟨hid, hwindow, hsufficient, hrange, hheaders, hpermissions⟩
    refine ⟨hid, hwindow, hsufficient, ?_, ?_, hpermissions⟩
    · rintro ⟨h, ht⟩
      exact ht (Scope.service_eq_table_iff.mpr (hrange h))
    · rintro ⟨h, hblob, hfile⟩
      exact (Scope.hasContent_iff.mp (hheaders h)).elim hblob hfile

/-- A grant that passes its checks is laid out, as these include the last one that could fail. -/
theorem unsigned_of_validate {g : ScopeGrant} (h : g.validate = .ok ()) : ∃ u, g.unsigned = .ok u := by
  obtain ⟨text, ht⟩ := CodeSet.exists_inOrder_iff.mpr (validate_eq_ok_iff.mp h).permissions
  exact ⟨_, bind_unit_eq_ok.mpr ⟨h, bind_eq_ok.mpr ⟨text, ht, rfl⟩⟩⟩

/-- What a token says of the permissions. -/
theorem get?_sp_of_token {g : ScopeGrant} {t : SasToken} (h : g.token.outcome = .ok t) :
    ∃ text, IsListing text g.scope.permissionOrder g.policy.permissions ∧
      t.get? "sp" = if g.policy.permissions.isEmpty then none else some text := by
  obtain ⟨u, hu, rfl⟩ := token_eq_ok.mp h
  obtain ⟨text, ht, hlayout⟩ := exists_fields_of_unsigned hu
  have hlisting := isListing_of_inOrder g.scope.nodup_permissionOrder ht
  have hd : ((g.fields text).map (·.1)).Nodup := (by decide : fieldNames.Nodup)
  refine ⟨text, hlisting, ?_⟩
  rw [SasToken.get?_push_of_ne (by decide), hlayout,
    SasToken.get?_foldl_push hd (by simp [fields] : ("sp", text) ∈ g.fields text)]
  simp only [hlisting.eq_empty_iff]

/-- However a grant is asked, by checking it, for what is to be signed or for the token, the answer is the
same, and is good for exactly the grants that are. -/
theorem answers_agree (g : ScopeGrant) :
    (g.validate = .ok () ↔ g.IsGrantable) ∧
      ((∃ s t text, g.validate = .ok () ∧ g.stringToSign = .ok s ∧ g.token.outcome = .ok t ∧
          IsListing text g.scope.permissionOrder g.policy.permissions ∧
            t.get? "sp" = if g.policy.permissions.isEmpty then none else some text) ∨
        ∃ e, g.validate = .error e ∧ g.stringToSign = .error e ∧
          g.token.outcome = .error (.error e)) := by
  refine ⟨validate_eq_ok_iff, ?_⟩
  cases h : g.validate with
  | ok u =>
    obtain ⟨u, hu⟩ := unsigned_of_validate h
    have ht := token_eq_ok.mpr ⟨u, hu, rfl⟩
    obtain ⟨text, hlisting, hsp⟩ := get?_sp_of_token ht
    exact .inl ⟨_, _, text, rfl, stringToSign_of_unsigned hu, ht, hlisting, hsp⟩
  | error e =>
    have hu : g.unsigned = .error e := bind_of_eq_error h _
    have ht : (Action.ofExcept g.unsigned).outcome = .error (.error e) := by
      rw [hu]
      rfl
    refine .inr ⟨e, rfl, bind_of_eq_error hu _, ?_⟩
    rw [token, Action.bind_of_error ht]

/-- Who refers to a stored policy need not say anything else. -/
example : accentedGrant.IsGrantable := validate_eq_ok_iff.mp rfl

end ScopeGrant

end StorageAccess
