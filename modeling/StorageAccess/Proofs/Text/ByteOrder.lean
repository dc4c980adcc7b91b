import StorageAccess.Proofs.Text.Redaction
import StorageAccess.Proofs.Text.Utf8RoundTrip

/-! Texts in the order of their bytes are in the order of their characters. A lead byte tells how many
bytes a character has, and those of longer characters are greater. -/
namespace StorageAccess.Utf8

theorem toNat_lt (c : Char) : c.toNat < 0x110000 := by
  have h := c.valid
  simp only [UInt32.isValidChar, Nat.isValidChar] at h
  change c.toNat < 0xD800 ∨ 0xDFFF < c.toNat ∧ c.toNat < 0x110000 at h
  omega

theorem cons_lt_cons {a b : Nat} {xs ys : List UInt8} (ha : a < 256) (hb : b < 256) :
    a.toUInt8 :: xs < b.toUInt8 :: ys ↔ a < b ∨ a = b ∧ xs < ys := by
  rw [List.cons_lt_cons_iff, UInt8.lt_iff_toNat_lt, ← UInt8.toNat_inj, toNat_toUInt8 ha,
    toNat_toUInt8 hb]

/-- A smaller character has smaller bytes, whatever comes after them. -/
theorem encodeChar_append_lt {c d : Char} (h : c < d) (xs ys : List UInt8) :
    encodeChar c ++ xs < encodeChar d ++ ys := by
  have hlt : c.toNat < d.toNat := h
  have hmax := toNat_lt d
  simp only [encodeChar]
  generalize c.toNat = m at *
  generalize d.toNat = n at *
  clear h
  -- of two characters with as many bytes, the first bytes that differ decide
  repeat' split
  all_goals simp (disch := omega) only [List.cons_append, List.nil_append, cons_lt_cons]
  all_goals omega

theorem encodeChars_lt {cs ds : List Char} (h : cs < ds) : encodeChars cs < encodeChars ds := by
  induction h with
  | nil =>
    rename_i d ds
    obtain ⟨b, bs, hd⟩ := List.exists_cons_of_ne_nil (encodeChar_ne_nil d)
    rw [encodeChars, encodeChars, List.flatMap_cons, hd]
    exact List.nil_lt_cons b _
  | rel h => exact encodeChar_append_lt h _ _
  | cons h ih => exact List.append_left_lt ih

/-- The order of texts by their bytes. -/
def ByteLe (s t : String) : Prop := ¬encode t < encode s

theorem byteLe_iff {s t : String} : ByteLe s t ↔ s ≤ t := by
  change ¬encode t < encode s ↔ ¬t.toList < s.toList
  refine not_congr ⟨fun h => ?_, encodeChars_lt⟩
  by_cases hlt : s.toList < t.toList
  · exact absurd h (List.lt_asymm (encodeChars_lt hlt))
  · obtain hlt | heq := List.le_iff_lt_or_eq.mp (List.not_lt.mp hlt)
    · exact hlt
    · rw [encode, encode, heq] at h
      exact absurd h (List.lt_irrefl _)

theorem encode_lt_iff {s t : String} : encode s < encode t ↔ s < t := by
  rw [← String.not_le, ← byteLe_iff, ByteLe, Classical.not_not]

end StorageAccess.Utf8
