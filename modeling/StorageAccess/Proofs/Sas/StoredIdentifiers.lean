import Mathlib.Data.List.Nodup
import StorageAccess.Proofs.Sas.Validation

/-! Which identifiers can be stored with one resource. They are checked one after the other, against those
that passed before; in which order they come makes no difference. -/
namespace StorageAccess.Policy

variable {ids others seen rest : List String} {id : String}

/-- At most five identifiers, all different, of between 1 and 64 characters each. -/
structure AreStorable (ids : List String) : Prop where
  few : ids.length ≤ 5
  distinct : ids.Nodup
  sized : ∀ id ∈ ids, 1 ≤ id.length ∧ id.length ≤ 64

theorem areStorable_nil : AreStorable [] := ⟨Nat.zero_le 5, List.nodup_nil, nofun⟩

theorem AreStorable.perm (h : AreStorable ids) (hp : ids.Perm others) : AreStorable others where
  few := hp.length_eq ▸ h.few
  distinct := hp.nodup_iff.mp h.distinct
  sized id hid := h.sized id (hp.mem_iff.mpr hid)

theorem AreStorable.of_append (h : AreStorable (ids ++ others)) : AreStorable ids where
  few := by
    have hfew := h.few
    rw [List.length_append] at hfew
    omega
  distinct := List.Nodup.of_append_left h.distinct
  sized id hid := h.sized id (List.mem_append_left others hid)

/-- What is asked of one more identifier. -/
theorem AreStorable.append_iff (h : AreStorable seen) : AreStorable (seen ++ [id]) ↔
    (1 ≤ id.length ∧ id.length ≤ 64) ∧ id ∉ seen ∧ seen.length ≠ 5 := by
  have hfew := h.few
  have hdistinct : (seen ++ [id]).Nodup ↔ id ∉ seen := by
    rw [← List.concat_eq_append, List.nodup_concat, and_iff_left h.distinct]
  constructor
  · intro hall
    have hlength := hall.few
    rw [List.length_append, List.length_singleton] at hlength
    exact ⟨hall.sized id (List.mem_append_right seen (List.mem_singleton_self id)),
      hdistinct.mp hall.distinct, by omega⟩
  · rintro ⟨hsized, hnew, hroom⟩
    constructor
    · rw [List.length_append, List.length_singleton]
      omega
    · exact hdistinct.mpr hnew
    · rw [List.forall_mem_append]
      exact ⟨h.sized, List.forall_mem_singleton.mpr hsized⟩

/-- One turn of the check. -/
theorem checkIdentifiersAfter_cons_eq_ok_iff : checkIdentifiersAfter seen (id :: rest) = .ok () ↔
    ((1 ≤ id.length ∧ id.length ≤ 64) ∧ id ∉ seen ∧ seen.length ≠ 5) ∧
      checkIdentifiersAfter (seen ++ [id]) rest = .ok () := by
  simp only [checkIdentifiersAfter, bind_unit_eq_ok, checkIdentifierText_eq_ok_iff, guard_eq_ok,
    List.contains_iff_mem, and_assoc]

/-- The check passes exactly if what it has seen and what is left can be stored together. -/
theorem checkIdentifiersAfter_eq_ok_iff (h : AreStorable seen) :
    checkIdentifiersAfter seen ids = .ok () ↔ AreStorable (seen ++ ids) := by
  -- those seen stay storable and so are never more than five: to ask for exactly five is enough
  induction ids generalizing seen with
  | nil => simp [checkIdentifiersAfter, h]
  | cons id rest ih =>
    rw [checkIdentifiersAfter_cons_eq_ok_iff, ← h.append_iff, List.append_cons seen id rest]
    constructor
    · rintro ⟨hid, hrest⟩
      exact (ih hid).mp hrest
    · intro hall
      exact ⟨hall.of_append, (ih hall.of_append).mpr hall⟩

/-- The check passes exactly if the identifiers can be stored together, and so in any order or in none. -/
theorem checkIdentifiers_iff_areStorable (ids : List String) :
    (checkIdentifiers ids = .ok () ↔ AreStorable ids) ∧
      ∀ others, ids.Perm others →
        (checkIdentifiers others = .ok () ↔ checkIdentifiers ids = .ok ()) := by
  have hpass : ∀ ids, checkIdentifiers ids = .ok () ↔ AreStorable ids := fun ids =>
    checkIdentifiersAfter_eq_ok_iff areStorable_nil
  refine ⟨hpass ids, fun others hp => ?_⟩
  rw [hpass, hpass]
  exact ⟨fun h => h.perm hp.symm, fun h => h.perm hp⟩

/-- As many identifiers as there may be, among them one of 64 characters with two bytes each. -/
def fiveIdentifiers : List String :=
  [String.ofList (List.replicate 64 'é'), "a", "A", " ", "aa"]

theorem checkIdentifiers_iff_areStorable_fiveIdentifiers :
    fiveIdentifiers.Perm fiveIdentifiers.reverse ∧
      checkIdentifiers fiveIdentifiers.reverse = .ok () := by
  have hperm := (List.reverse_perm fiveIdentifiers).symm
  have hstorable : AreStorable fiveIdentifiers := ⟨by decide +kernel, by decide +kernel, by decide +kernel⟩
  obtain ⟨hpass, horder⟩ := checkIdentifiers_iff_areStorable fiveIdentifiers
  exact ⟨hperm, (horder _ hperm).mpr (hpass.mpr hstorable)⟩

end StorageAccess.Policy
