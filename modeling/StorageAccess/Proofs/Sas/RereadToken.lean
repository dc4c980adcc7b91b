import StorageAccess.Proofs.Sas.IssuedToken
import StorageAccess.Proofs.Text.Redaction

/-! Tokens that were read, written again and read once more. They are the same as before unless there was
nothing but separators in them: such a token has no field, and its written form is empty. -/
namespace StorageAccess

theorem forall_splitOnP_eq_nil_iff {α : Type} {p : α → Bool} {xs : List α} :
    (∀ part ∈ xs.splitOnP p, part = []) ↔ ∀ x ∈ xs, p x = true := by
  induction xs with
  | nil => simp
  | cons x xs ih =>
    rw [List.splitOnP_cons_eq_if_modifyHead, List.forall_mem_cons]
    by_cases hx : p x = true
    · rw [if_pos hx, List.forall_mem_cons, ih]
      simp [hx]
    · obtain ⟨first, rest, hsplit⟩ := List.exists_cons_of_ne_nil (List.splitOnP_ne_nil p xs)
      rw [if_neg hx, hsplit, List.modifyHead_cons, List.forall_mem_cons]
      simp [hx]

namespace Form

variable {s : String}

theorem segments_eq_nil_iff {bytes : List UInt8} : segments bytes = [] ↔ ∀ b ∈ bytes, b = 0x26 := by
  have hparts : (∀ part ∈ bytes.splitOnP (· == 0x26), part = []) ↔ ∀ b ∈ bytes, (b == 0x26) = true :=
    forall_splitOnP_eq_nil_iff
  rw [segments, List.filter_eq_nil_iff]
  simpa using hparts

/-- Bytes of ampersands come from ampersands alone. -/
theorem forall_mem_encode_iff : (∀ b ∈ Utf8.encode s, b = 0x26) ↔ ∀ c ∈ s.toList, c = '&' := by
  constructor
  · intro h c hc
    obtain ⟨b, hb⟩ := List.exists_mem_of_ne_nil _ (Utf8.encodeChar_ne_nil c)
    have hbyte : b = 0x26 := h b (List.mem_flatMap.mpr ⟨c, hc, hb⟩)
    subst hbyte
    exact Char.toNat_inj.mp (Utf8.toNat_eq_of_mem_encodeChar hb (by decide))
  · intro h b hb
    obtain ⟨c, hc, hb⟩ := List.mem_flatMap.mp hb
    rw [h c hc] at hb
    exact List.mem_singleton.mp hb

/-- A form has no pair exactly if it has no stretch between ampersands. -/
theorem decode_eq_nil_iff : decode s = [] ↔ ∀ part ∈ s.toList.splitOn '&', part = [] := by
  rw [decode, List.map_eq_nil_iff, segments_eq_nil_iff, forall_mem_encode_iff, List.splitOn,
    forall_splitOnP_eq_nil_iff]
  simp

end Form

namespace SasToken

/-- A text after some number of question marks. -/
def marked (n : Nat) (s : String) : String := String.ofList (List.replicate n '?') ++ s

theorem ofText_eq_ok_iff {query : String} {t : SasToken} : ofText query = .ok t ↔
    withoutLeadingMarks query ≠ "" ∧ t = ⟨Form.decode (withoutLeadingMarks query)⟩ := by
  change (if withoutLeadingMarks query = "" then _ else _) = _ ↔ _
  by_cases h : withoutLeadingMarks query = ""
  · rw [if_pos h]
    exact iff_of_false nofun fun hne => hne.1 h
  · rw [if_neg h, Except.ok.injEq]
    exact ⟨fun he => ⟨h, he.symm⟩, fun he => he.2.symm⟩

theorem ofText_marked_empty (n : Nat) :
    ofText (marked n "") = .error ⟨.signatureInput, "empty sas token", none⟩ := by
  rw [ofText, marked, withoutLeadingMarks_append n (by decide)]
  rfl

theorem text_eq_empty {t : SasToken} (h : t.pairs = []) : t.text = "" := by
  rw [text, h]
  rfl

/-- A token that was read is written and read again without loss exactly if there was anything between the
separators. Otherwise there is nothing to read. -/
theorem ofText_marked_text {query : String} {t : SasToken} (h : ofText query = .ok t) (n : Nat) :
    (ofText (marked n t.text) = .ok t ↔
        ∃ part ∈ (withoutLeadingMarks query).toList.splitOn '&', part ≠ []) ∧
      (ofText (marked n t.text) = .error ⟨.signatureInput, "empty sas token", none⟩ ↔
        ∀ part ∈ (withoutLeadingMarks query).toList.splitOn '&', part = []) := by
  have hpairs : t.pairs = [] ↔ ∀ part ∈ (withoutLeadingMarks query).toList.splitOn '&', part = [] := by
    rw [(ofText_eq_ok_iff.mp h).2]
    exact Form.decode_eq_nil_iff
  have hsome : (∃ part ∈ (withoutLeadingMarks query).toList.splitOn '&', part ≠ []) ↔ t.pairs ≠ [] := by
    rw [Ne, hpairs]
    simp only [Classical.not_forall, exists_prop]
  rw [hsome, ← hpairs]
  by_cases hnil : t.pairs = []
  · rw [text_eq_empty hnil, ofText_marked_empty]
    exact ⟨iff_of_false nofun fun hne => hne hnil, iff_of_true rfl hnil⟩
  · have hread : ofText (marked n t.text) = .ok t := ofText_text n hnil
    rw [hread]
    exact ⟨iff_of_true rfl hnil, iff_of_false nofun hnil⟩

/-- Two marks, an empty stretch, a plus sign, a sign of percent that escapes nothing, an empty name and a
byte that is no text. -/
def strayQuery : String := "??&sig=a+b%2B%&&=%FF"

theorem ofText_marked_text_strayQuery :
    ofText strayQuery = .ok ⟨[("sig", "a b+%"), ("", "\uFFFD")]⟩ ∧
      ofText (marked 3 (text ⟨[("sig", "a b+%"), ("", "\uFFFD")]⟩)) =
        .ok ⟨[("sig", "a b+%"), ("", "\uFFFD")]⟩ := by
  have h : ofText strayQuery = .ok ⟨[("sig", "a b+%"), ("", "\uFFFD")]⟩ := rfl
  exact ⟨h, (ofText_marked_text h 3).1.mpr (by decide)⟩

end SasToken

end StorageAccess
