import StorageAccess.Text.Utf8

/-! Text written as UTF-8 reads back as itself, and the bytes below 0x80 in it are its characters of
ASCII. -/
namespace StorageAccess.Utf8

theorem toNat_toUInt8 {n : Nat} (h : n < 256) : n.toUInt8.toNat = n :=
  UInt8.toNat_ofNat_of_lt' h

theorem isTail_iff {b : UInt8} : isTail b = true ↔ 0x80 ≤ b.toNat ∧ b.toNat < 0xC0 := by
  simp [isTail, UInt8.le_iff_toNat_le, UInt8.lt_iff_toNat_lt]

theorem isSecondOfThree_iff {a b : UInt8} : isSecondOfThree a b = true ↔
    (0x80 ≤ b.toNat ∧ b.toNat < 0xC0) ∧ (a.toNat = 0xE0 → 0xA0 ≤ b.toNat) ∧
      (a.toNat = 0xED → b.toNat < 0xA0) := by
  simp [isSecondOfThree, isTail_iff, UInt8.le_iff_toNat_le, UInt8.lt_iff_toNat_lt,
    ← UInt8.toNat_inj, and_assoc]
  omega

theorem isSecondOfFour_iff {a b : UInt8} : isSecondOfFour a b = true ↔
    (0x80 ≤ b.toNat ∧ b.toNat < 0xC0) ∧ (a.toNat = 0xF0 → 0x90 ≤ b.toNat) ∧
      (a.toNat = 0xF4 → b.toNat < 0x90) := by
  simp [isSecondOfFour, isTail_iff, UInt8.le_iff_toNat_le, UInt8.lt_iff_toNat_lt,
    ← UInt8.toNat_inj, and_assoc]
  omega

theorem readAfter_one {a : UInt8} (rest : List UInt8) (ha : a.toNat < 0x80) :
    readAfter a rest = (some (Char.ofNat a.toNat), 0) := by
  have h : a < 0x80 := UInt8.lt_iff_toNat_lt.mpr ha
  simp [readAfter, h]

theorem readAfter_two {a b : UInt8} (rest : List UInt8) (ha : 0xC2 ≤ a.toNat ∧ a.toNat < 0xE0)
    (hb : isTail b = true) : readAfter a (b :: rest) = (some (joinTwo a b), 1) := by
  have h1 : ¬ a < 0x80 := by rw [UInt8.lt_iff_toNat_lt]; simp; omega
  have h2 : 0xC2 ≤ a ∧ a < 0xE0 := by rwa [UInt8.le_iff_toNat_le, UInt8.lt_iff_toNat_lt]
  simp [readAfter, h1, h2, hb]

theorem readAfter_three {a b c : UInt8} (rest : List UInt8)
    (ha : 0xE0 ≤ a.toNat ∧ a.toNat < 0xF0) (hb : isSecondOfThree a b = true)
    (hc : isTail c = true) : readAfter a (b :: c :: rest) = (some (joinThree a b c), 2) := by
  have h1 : ¬ a < 0x80 := by rw [UInt8.lt_iff_toNat_lt]; simp; omega
  have h2 : ¬ (0xC2 ≤ a ∧ a < 0xE0) := by
    rw [UInt8.le_iff_toNat_le, UInt8.lt_iff_toNat_lt]; simp; omega
  have h3 : 0xE0 ≤ a ∧ a < 0xF0 := by rwa [UInt8.le_iff_toNat_le, UInt8.lt_iff_toNat_lt]
  simp [readAfter, h1, h2, h3, hb, hc]

theorem readAfter_four {a b c d : UInt8} (rest : List UInt8)
    (ha : 0xF0 ≤ a.toNat ∧ a.toNat < 0xF5) (hb : isSecondOfFour a b = true)
    (hc : isTail c = true) (hd : isTail d = true) :
    readAfter a (b :: c :: d :: rest) = (some (joinFour a b c d), 3) := by
  have h1 : ¬ a < 0x80 := by rw [UInt8.lt_iff_toNat_lt]; simp; omega
  have h2 : ¬ (0xC2 ≤ a ∧ a < 0xE0) := by
    rw [UInt8.le_iff_toNat_le, UInt8.lt_iff_toNat_lt]; simp; omega
  have h3 : ¬ (0xE0 ≤ a ∧ a < 0xF0) := by
    rw [UInt8.le_iff_toNat_le, UInt8.lt_iff_toNat_lt]; simp; omega
  have h4 : 0xF0 ≤ a ∧ a < 0xF5 := by rwa [UInt8.le_iff_toNat_le, UInt8.lt_iff_toNat_lt]
  simp [readAfter, h1, h2, h3, h4, hb, hc, hd]

/-- One character is read back, whatever follows it. -/
theorem readAfter_encodeChar (c : Char) (rest : List UInt8) :
    ∃ lead tail, encodeChar c = lead :: tail ∧
      readAfter lead (tail ++ rest) = (some c, tail.length) := by
  -- surrogates are no characters: this is what the second of three bytes is checked for
  have hv : c.toNat < 0xD800 ∨ (0xDFFF < c.toNat ∧ c.toNat < 0x110000) := c.valid
  by_cases h1 : c.toNat < 0x80
  · refine ⟨c.toNat.toUInt8, [], by simp [encodeChar, h1], ?_⟩
    have ha := toNat_toUInt8 (n := c.toNat) (by omega)
    rw [readAfter_one _ (by omega), ha, Char.ofNat_toNat]
    rfl
  by_cases h2 : c.toNat < 0x800
  · have he : encodeChar c = [(0xC0 + c.toNat / 64).toUInt8, (0x80 + c.toNat % 64).toUInt8] := by
      simp only [encodeChar, if_neg h1, if_pos h2]
    refine ⟨_, _, he, ?_⟩
    have ha := toNat_toUInt8 (n := 0xC0 + c.toNat / 64) (by omega)
    have hb := toNat_toUInt8 (n := 0x80 + c.toNat % 64) (by omega)
    rw [List.singleton_append, readAfter_two _ (by omega) (isTail_iff.mpr (by omega)), joinTwo,
      ha, hb, show (0xC0 + c.toNat / 64 - 0xC0) * 64 + (0x80 + c.toNat % 64 - 0x80) = c.toNat by
        omega, Char.ofNat_toNat]
    rfl
  by_cases h3 : c.toNat < 0x10000
  · have he : encodeChar c = [(0xE0 + c.toNat / 4096).toUInt8,
        (0x80 + c.toNat / 64 % 64).toUInt8, (0x80 + c.toNat % 64).toUInt8] := by
      simp only [encodeChar, if_neg h1, if_neg h2, if_pos h3]
    refine ⟨_, _, he, ?_⟩
    have ha := toNat_toUInt8 (n := 0xE0 + c.toNat / 4096) (by omega)
    have hb := toNat_toUInt8 (n := 0x80 + c.toNat / 64 % 64) (by omega)
    have hc := toNat_toUInt8 (n := 0x80 + c.toNat % 64) (by omega)
    rw [List.cons_append, List.singleton_append,
      readAfter_three _ (by omega) (isSecondOfThree_iff.mpr (by omega)) (isTail_iff.mpr (by omega)),
      joinThree, ha, hb, hc,
      show (0xE0 + c.toNat / 4096 - 0xE0) * 4096 + (0x80 + c.toNat / 64 % 64 - 0x80) * 64
        + (0x80 + c.toNat % 64 - 0x80) = c.toNat by omega, Char.ofNat_toNat]
    rfl
  · have he : encodeChar c = [(0xF0 + c.toNat / 262144).toUInt8,
        (0x80 + c.toNat / 4096 % 64).toUInt8, (0x80 + c.toNat / 64 % 64).toUInt8,
        (0x80 + c.toNat % 64).toUInt8] := by
      simp only [encodeChar, if_neg h1, if_neg h2, if_neg h3]
    refine ⟨_, _, he, ?_⟩
    have ha := toNat_toUInt8 (n := 0xF0 + c.toNat / 262144) (by omega)
    have hb := toNat_toUInt8 (n := 0x80 + c.toNat / 4096 % 64) (by omega)
    have hc := toNat_toUInt8 (n := 0x80 + c.toNat / 64 % 64) (by omega)
    have hd := toNat_toUInt8 (n := 0x80 + c.toNat % 64) (by omega)
    rw [List.cons_append, List.cons_append, List.singleton_append,
      readAfter_four _ (by omega) (isSecondOfFour_iff.mpr (by omega)) (isTail_iff.mpr (by omega))
        (isTail_iff.mpr (by omega)), joinFour, ha, hb, hc, hd,
      show (0xF0 + c.toNat / 262144 - 0xF0) * 262144 + (0x80 + c.toNat / 4096 % 64 - 0x80) * 4096
        + (0x80 + c.toNat / 64 % 64 - 0x80) * 64 + (0x80 + c.toNat % 64 - 0x80) = c.toNat by
        omega, Char.ofNat_toNat]
    rfl

theorem decodeAfter_length_append (skipped rest : List UInt8) :
    decodeAfter skipped.length (skipped ++ rest) = decodeAfter 0 rest := by
  induction skipped with
  | nil => rfl
  | cons b bs ih => exact ih

theorem decode_encodeChars (cs : List Char) : decode (encodeChars cs) = cs.map some := by
  induction cs with
  | nil => rfl
  | cons c cs ih =>
    obtain ⟨lead, tail, hc, hr⟩ := readAfter_encodeChar c (encodeChars cs)
    have he : encodeChars (c :: cs) = lead :: (tail ++ encodeChars cs) := by
      simp [encodeChars, hc]
    rw [he]
    change (readAfter lead _).1 :: decodeAfter (readAfter lead _).2 _ = _
    rw [hr, decodeAfter_length_append]
    exact congrArg (some c :: ·) ih

/-- Text survives being written as UTF-8. -/
@[simp] theorem decodeLossy_encode (s : String) : decodeLossy (encode s) = s := by
  simp [decodeLossy, encode, decode_encodeChars, Function.comp_def]

@[simp] theorem encodeChars_append (cs ds : List Char) :
    encodeChars (cs ++ ds) = encodeChars cs ++ encodeChars ds := List.flatMap_append

@[simp] theorem encode_append (s t : String) : encode (s ++ t) = encode s ++ encode t := by
  simp [encode]

theorem encode_eq_nil_iff {s : String} : encode s = [] ↔ s = "" := by
  constructor
  · intro h
    rw [← decodeLossy_encode s, h]
    rfl
  · rintro rfl
    rfl

theorem encodeChar_of_lt {c : Char} (h : c.toNat < 0x80) : encodeChar c = [c.toNat.toUInt8] :=
  if_pos h

/-- The bytes of characters outside ASCII are outside ASCII. -/
theorem toNat_eq_of_mem_encodeChar {b : UInt8} {c : Char} (h : b ∈ encodeChar c)
    (hb : b.toNat < 0x80) : c.toNat = b.toNat := by
  have hv : c.toNat < 0xD800 ∨ (0xDFFF < c.toNat ∧ c.toNat < 0x110000) := c.valid
  simp only [encodeChar] at h
  split at h
  · rw [List.mem_singleton] at h
    rw [h, toNat_toUInt8 (by omega)]
  · exfalso
    split at h
    · simp only [List.mem_cons, List.not_mem_nil, or_false] at h
      obtain rfl | rfl := h <;> rw [toNat_toUInt8 (by omega)] at hb <;> omega
    · split at h
      · simp only [List.mem_cons, List.not_mem_nil, or_false] at h
        obtain rfl | rfl | rfl := h <;> rw [toNat_toUInt8 (by omega)] at hb <;> omega
      · simp only [List.mem_cons, List.not_mem_nil, or_false] at h
        obtain rfl | rfl | rfl | rfl := h <;> rw [toNat_toUInt8 (by omega)] at hb <;> omega

/-- A character of ASCII is in a text exactly when its byte is in the written form. -/
theorem mem_encodeChars_iff {c : Char} (hc : c.toNat < 0x80) {cs : List Char} :
    c.toNat.toUInt8 ∈ encodeChars cs ↔ c ∈ cs := by
  have hn := toNat_toUInt8 (n := c.toNat) (by omega)
  constructor
  · intro h
    obtain ⟨d, hd, hm⟩ := List.mem_flatMap.mp h
    have he := toNat_eq_of_mem_encodeChar hm (by omega)
    rw [hn] at he
    rwa [← Char.toNat_inj.mp he]
  · intro h
    exact List.mem_flatMap.mpr ⟨c, h, by simp [encodeChar_of_lt hc]⟩

end StorageAccess.Utf8
