import StorageAccess.Text.Redacted

/-! What a redacted secret says about the secret: at least whether there is one. -/
namespace StorageAccess

theorem Utf8.encodeChar_ne_nil (c : Char) : encodeChar c ≠ [] := by
  simp only [encodeChar]
  split
  · simp
  split
  · simp
  split <;> simp

theorem Utf8.encodeChars_eq_nil_iff {cs : List Char} : encodeChars cs = [] ↔ cs = [] := by
  rw [encodeChars, List.flatMap_eq_nil_iff, List.eq_nil_iff_forall_not_mem]
  exact forall₂_congr fun c _ => iff_false_intro (encodeChar_ne_nil c)

theorem Utf8.length_encodeChars_ne_zero {s : String} (h : s ≠ "") :
    ¬(encodeChars s.toList).length = 0 := by
  rw [List.length_eq_zero_iff, encodeChars_eq_nil_iff]
  exact fun hnil => h (String.toList_inj.mp hnil)

/-- Of any secret asterisks are shown. -/
theorem asterisk_mem_redacted {s : String} (h : s ≠ "") : '*' ∈ (redacted s).toList := by
  simp only [redacted, if_neg (Utf8.length_encodeChars_ne_zero h)]
  split
  · decide
  split
  · simp
  · decide

theorem redacted_eq_empty_iff {s : String} : redacted s = "EMPTY" ↔ s = "" := by
  constructor
  · intro h
    refine Decidable.byContradiction fun hne => ?_
    have hm := asterisk_mem_redacted hne
    rw [h] at hm
    exact absurd hm (by decide)
  · rintro rfl
    rfl

end StorageAccess
