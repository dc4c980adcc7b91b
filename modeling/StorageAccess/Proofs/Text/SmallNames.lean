import StorageAccess.Text.Lowercase

/-! Names of small letters. Two ways to look past capitals agree on what is such a name: to turn the
letters A to Z alone into small ones, and to turn all letters into small ones. One letter has to be left
out, since outside ASCII the sign of kelvin has the small k as well. -/
namespace StorageAccess.Lowercase

variable {c t : Char} {cs ts : List Char}

/-- The characters of ASCII that only they themselves, or one letter from A to Z, have as their small form. -/
def IsPlainSmall (t : Char) : Prop := t.toNat < 0x80 ∧ ofBasicLatin t = t ∧ t ≠ 'k'

instance (t : Char) : Decidable (IsPlainSmall t) := by unfold IsPlainSmall; infer_instance

/-- Of ASCII, only A to Z are in the table. -/
theorem ofChar_of_lt (h : c.toNat < 0x80) : ofChar c = ofBasicLatin c := by
  have htail : ∀ run ∈ CaseTable.runs.tail, 0x80 ≤ run.first := by decide +kernel
  have hnone : CaseTable.runs.tail.find? (·.covers c.toNat) = none := by
    rw [List.find?_eq_none]
    intro run hrun hcovers
    have hfirst := htail run hrun
    simp only [CaseTable.Run.covers, Bool.and_eq_true, decide_eq_true_eq] at hcovers
    omega
  have hcons : CaseTable.runs = ⟨0x41, 0x5A, 1, 0x61⟩ :: CaseTable.runs.tail := rfl
  have hcovers : (⟨0x41, 0x5A, 1, 0x61⟩ : CaseTable.Run).covers c.toNat = true ↔ 'A' ≤ c ∧ c ≤ 'Z' := by
    change _ ↔ 0x41 ≤ c.toNat ∧ c.toNat ≤ 0x5A
    simp [CaseTable.Run.covers, Nat.mod_one]
  unfold ofChar ofBasicLatin
  rw [hcons, List.find?_cons, hnone]
  by_cases hc : 'A' ≤ c ∧ c ≤ 'Z'
  · have hlow : 0x41 ≤ c.toNat := hc.1
    rw [hcovers.mpr hc, if_pos hc]
    change Char.ofNat (0x61 + (c.toNat - 0x41)) = Char.ofNat (c.toNat + 32)
    rw [show 0x61 + (c.toNat - 0x41) = c.toNat + 32 by omega]
  · rw [Bool.eq_false_iff.mpr (mt hcovers.mp hc), if_neg hc]

theorem ofBasicLatin_of_le (h : 0x80 ≤ c.toNat) : ofBasicLatin c = c := by
  refine if_neg fun hc => ?_
  have hz : c.toNat ≤ 0x5A := hc.2
  omega

/-- A run outside ASCII has its small letters there as well, or is the sign of kelvin. -/
theorem cases_of_mem_runs : ∀ run ∈ CaseTable.runs,
    run.last < 0x80 ∨
      (0x80 ≤ run.target ∧ (run.target + (run.last - run.first) < 0xD800 ∨
        0xDFFF < run.target ∧ run.target + (run.last - run.first) < 0x110000)) ∨
      (run.target = 0x6B ∧ run.first = run.last) := by
  decide +kernel

theorem ofChar_of_le (h : 0x80 ≤ c.toNat) : 0x80 ≤ (ofChar c).toNat ∨ ofChar c = 'k' := by
  unfold ofChar
  split
  · rename_i run hrun
    have hcovers := List.find?_some hrun
    simp only [CaseTable.Run.covers, Bool.and_eq_true, decide_eq_true_eq] at hcovers
    obtain hlast | ⟨htarget, hvalid⟩ | ⟨htarget, hfirst⟩ :=
      cases_of_mem_runs run (List.mem_of_find?_eq_some hrun)
    · omega
    · have hn : (run.target + (c.toNat - run.first)).isValidChar := by
        unfold Nat.isValidChar
        omega
      left
      rw [Char.ofNat, dif_pos hn]
      change 0x80 ≤ run.target + (c.toNat - run.first)
      omega
    · right
      rw [htarget, show c.toNat - run.first = 0 by omega]
  · exact .inl h

theorem ofChar_eq_iff (ht : IsPlainSmall t) : ofChar c = t ↔ ofBasicLatin c = t := by
  by_cases hc : c.toNat < 0x80
  · rw [ofChar_of_lt hc]
  · obtain ⟨hlt, -, hk⟩ := ht
    have hle : 0x80 ≤ c.toNat := Nat.le_of_not_lt hc
    rw [ofBasicLatin_of_le hle]
    refine iff_of_false ?_ ?_
    · rintro rfl
      obtain h | h := ofChar_of_le hle
      · omega
      · exact hk h
    · rintro rfl
      exact hc hlt

/-- The letters with forms of their own take no part: neither has a small form in ASCII. -/
theorem chars_eq_iff (before : List Char) (hts : ∀ t ∈ ts, IsPlainSmall t) :
    chars before cs = ts ↔ cs.map ofBasicLatin = ts := by
  induction cs generalizing before ts with
  | nil => rfl
  | cons c rest ih =>
    rw [chars, List.map_cons]
    by_cases hsigma : c = 'Σ'
    · refine iff_of_false ?_ ?_ <;> rintro rfl
      · have hform := hts (sigma before rest) (by simp [hsigma])
        unfold sigma at hform
        split at hform <;> exact absurd hform (by decide)
      · exact absurd (hts _ List.mem_cons_self) (by rw [hsigma]; decide)
    by_cases hdotted : c = 'İ'
    · refine iff_of_false ?_ ?_ <;> rintro rfl
      · exact absurd (hts '\u0307' (by simp [hdotted])) (by decide)
      · exact absurd (hts _ List.mem_cons_self) (by rw [hdotted]; decide)
    · simp only [beq_iff_eq, if_neg hsigma, if_neg hdotted, List.singleton_append]
      cases ts with
      | nil => exact iff_of_false nofun nofun
      | cons t ts =>
        rw [List.forall_mem_cons] at hts
        rw [List.cons.injEq, List.cons.injEq, ofChar_eq_iff hts.1, ih _ hts.2]

theorem lowercase_eq_iff {s name : String} (h : ∀ t ∈ name.toList, IsPlainSmall t) :
    lowercase s = name ↔ sameBasicLatin s name = true := by
  have hname : name.toList.map ofBasicLatin = name.toList :=
    (List.map_congr_left fun t ht => (h t ht).2.1).trans (List.map_id _)
  rw [sameBasicLatin, beq_iff_eq, hname, ← chars_eq_iff [] h, lowercase, ← String.toList_inj,
    String.toList_ofList]

/-- The sign of kelvin. -/
example : lowercase "\u212A" = "k" ∧ sameBasicLatin "\u212A" "k" = false := by decide +kernel

end StorageAccess.Lowercase
