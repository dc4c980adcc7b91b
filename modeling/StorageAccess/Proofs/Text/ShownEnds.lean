import StorageAccess.Proofs.Text.Redaction
import StorageAccess.Proofs.Text.Utf8RoundTrip

/-! How much of a secret is shown. Ends are cut off by bytes and shown only if this cuts no character, so
of a secret with twelve bytes or more they may be shown even if it has fewer characters than that. -/
namespace StorageAccess

namespace Utf8

variable {cs start : List Char} {size : Nat}

/-- Whether a character begins at a byte, or the text ends before it. -/
def isBoundary (bytes : List UInt8) (i : Nat) : Bool :=
  match bytes.drop i with
  | [] => i == bytes.length
  | b :: _ => !isTail b

theorem isTail_toUInt8_iff {n : Nat} (h : n < 256) : isTail n.toUInt8 = true ↔ 0x80 ≤ n ∧ n < 0xC0 := by
  rw [isTail_iff, toNat_toUInt8 h]

/-- All bytes of a character but the first are marked as such. -/
theorem exists_encodeChar (c : Char) : ∃ lead tail, encodeChar c = lead :: tail ∧
    ¬isTail lead = true ∧ ∀ b ∈ tail, isTail b = true := by
  have hv : c.toNat < 0xD800 ∨ (0xDFFF < c.toNat ∧ c.toNat < 0x110000) := c.valid
  simp only [encodeChar]
  generalize c.toNat = n at *
  repeat' split
  all_goals refine ⟨_, _, rfl, ?_⟩
  all_goals simp (disch := omega) only [isTail_toUInt8_iff, List.forall_mem_cons, List.not_mem_nil,
    false_imp_iff, implies_true, and_true]
  all_goals omega

theorem encodeChars_cons (c : Char) (cs : List Char) :
    encodeChars (c :: cs) = encodeChar c ++ encodeChars cs := List.flatMap_cons

theorem length_le_length_encodeChars (cs : List Char) : cs.length ≤ (encodeChars cs).length := by
  induction cs with
  | nil => exact Nat.le_refl 0
  | cons c cs ih =>
    have hpos : 0 < (encodeChar c).length := List.length_pos_iff.mpr (encodeChar_ne_nil c)
    rw [encodeChars_cons, List.length_append, List.length_cons]
    omega

theorem isBoundary_append (front bytes : List UInt8) (i : Nat) :
    isBoundary (front ++ bytes) (front.length + i) = isBoundary bytes i := by
  unfold isBoundary
  rw [List.drop_length_add_append, List.length_append]
  cases bytes.drop i with
  | nil =>
    dsimp only
    rw [Bool.eq_iff_iff, beq_iff_eq, beq_iff_eq, Nat.add_left_cancel_iff]
  | cons b rest => rfl

/-- Inside of a character there is no boundary. -/
theorem not_isBoundary_of_lt {lead : UInt8} {tail : List UInt8} (htail : ∀ b ∈ tail, isTail b = true)
    (bytes : List UInt8) (hpos : size ≠ 0) (hlt : size < (lead :: tail).length) :
    ¬isBoundary (lead :: tail ++ bytes) size = true := by
  obtain ⟨i, rfl⟩ := Nat.exists_eq_succ_of_ne_zero hpos
  have hi : i < tail.length := Nat.lt_of_succ_lt_succ hlt
  have hdrop : (lead :: tail ++ bytes).drop (i + 1) = tail[i] :: ((tail.drop (i + 1)) ++ bytes) := by
    rw [List.cons_append, List.drop_succ_cons, List.drop_append_of_le_length (by omega),
      List.drop_eq_getElem_cons hi, List.cons_append]
  have hb := htail tail[i] (List.getElem_mem hi)
  simp only [isBoundary, hdrop, hb]
  exact Bool.false_ne_true

/-- Characters that lead a text and have so many bytes together. -/
def IsCut (cs : List Char) (size : Nat) (start : List Char) : Prop :=
  start <+: cs ∧ (encodeChars start).length = size

theorem isCut_zero_iff : IsCut cs 0 start ↔ start = [] := by
  rw [IsCut, List.length_eq_zero_iff, encodeChars_eq_nil_iff]
  refine and_iff_right_of_imp ?_
  rintro rfl
  exact List.nil_prefix

theorem not_isCut_nil (h : size ≠ 0) : ¬IsCut [] size start := by
  rintro ⟨hstart, rfl⟩
  rw [List.prefix_nil.mp hstart] at h
  exact h rfl

theorem isCut_cons_iff {c : Char} (h : size ≠ 0) : IsCut (c :: cs) size start ↔
    ∃ rest, start = c :: rest ∧ rest <+: cs ∧ (encodeChar c).length + (encodeChars rest).length = size := by
  constructor
  · rintro ⟨hstart, rfl⟩
    obtain rfl | ⟨rest, rfl, hrest⟩ := List.prefix_cons_iff.mp hstart
    · exact absurd rfl h
    · exact ⟨rest, rfl, hrest, by rw [encodeChars_cons, List.length_append]⟩
  · rintro ⟨rest, rfl, hrest, rfl⟩
    exact ⟨List.cons_prefix_cons.mpr ⟨rfl, hrest⟩, by rw [encodeChars_cons, List.length_append]⟩

/-- The boundaries are where leading characters can be cut off. -/
theorem isBoundary_encodeChars_iff :
    isBoundary (encodeChars cs) size = true ↔ ∃ start, IsCut cs size start := by
  induction cs generalizing size with
  | nil =>
    cases size with
    | zero => exact iff_of_true rfl ⟨[], isCut_zero_iff.mpr rfl⟩
    | succ size => exact iff_of_false nofun fun ⟨start, h⟩ => not_isCut_nil (Nat.succ_ne_zero size) h
  | cons c cs ih =>
    obtain ⟨lead, tail, hc, hlead, htail⟩ := exists_encodeChar c
    by_cases hzero : size = 0
    · have hfirst : isBoundary (encodeChars (c :: cs)) 0 = true := by
        simp [isBoundary, encodeChars_cons, hc, hlead]
      rw [hzero]
      exact iff_of_true hfirst ⟨[], isCut_zero_iff.mpr rfl⟩
    simp only [isCut_cons_iff hzero, encodeChars_cons]
    -- a byte of the first character, or one of the rest of the text
    by_cases hlt : size < (encodeChar c).length
    · refine iff_of_false ?_ ?_
      · rw [hc]
        exact not_isBoundary_of_lt htail _ hzero (hc ▸ hlt)
      · rintro ⟨start, rest, -, -, rfl⟩
        exact Nat.not_lt.mpr (Nat.le_add_right _ _) hlt
    · obtain ⟨i, rfl⟩ := Nat.exists_eq_add_of_le (Nat.le_of_not_lt hlt)
      rw [isBoundary_append, ih]
      constructor
      · rintro ⟨rest, hrest, rfl⟩
        exact ⟨c :: rest, rest, rfl, hrest, rfl⟩
      · rintro ⟨start, rest, -, hrest, hlength⟩
        exact ⟨rest, hrest, Nat.add_left_cancel hlength⟩

theorem decode?_encodeChars (cs : List Char) : decode? (encodeChars cs) = some (String.ofList cs) := by
  have hmapM : (cs.map some).mapM id = some cs := by
    induction cs with
    | nil => rfl
    | cons c cs ih => simp [ih]
  rw [decode?, decode_encodeChars, hmapM, Option.map_some]

end Utf8

theorem bytesPrefix?_eq_some_iff {size : Nat} {cs start : List Char} :
    bytesPrefix? size cs = some start ↔ Utf8.IsCut cs size start := by
  induction cs generalizing size start with
  | nil =>
    cases size with
    | zero => rw [bytesPrefix?, Option.some.injEq, Utf8.isCut_zero_iff, eq_comm]
    | succ size => exact iff_of_false nofun (Utf8.not_isCut_nil (Nat.succ_ne_zero size))
  | cons c cs ih =>
    cases size with
    | zero => rw [bytesPrefix?, Option.some.injEq, Utf8.isCut_zero_iff, eq_comm]
    | succ size =>
      rw [bytesPrefix?, Utf8.isCut_cons_iff (Nat.succ_ne_zero size)]
      by_cases hle : (Utf8.encodeChar c).length ≤ size + 1
      · simp only [if_pos hle, Option.map_eq_some_iff, ih]
        constructor
        · rintro ⟨rest, ⟨hrest, hlength⟩, rfl⟩
          exact ⟨rest, rfl, hrest, by omega⟩
        · rintro ⟨rest, rfl, hrest, hlength⟩
          exact ⟨rest, ⟨hrest, by omega⟩, rfl⟩
      · simp only [if_neg hle]
        refine iff_of_false nofun ?_
        rintro ⟨rest, -, -, hlength⟩
        omega

theorem Utf8.length_encodeChars_reverse (cs : List Char) :
    (encodeChars cs.reverse).length = (encodeChars cs).length :=
  ((List.reverse_perm cs).flatMap_right encodeChar).length_eq

variable {s : String} {start finish : List Char}

/-- A text of twelve bytes or more, of which characters take up the first three and the last three. -/
structure HasEnds (s : String) (start finish : List Char) : Prop where
  long : 12 ≤ (Utf8.encode s).length
  begins : start <+: s.toList
  ends : finish <:+ s.toList
  length_start : (Utf8.encodeChars start).length = 3
  length_finish : (Utf8.encodeChars finish).length = 3

namespace HasEnds

theorem first (h : HasEnds s start finish) : bytesPrefix? 3 s.toList = some start :=
  bytesPrefix?_eq_some_iff.mpr ⟨h.begins, h.length_start⟩

theorem last (h : HasEnds s start finish) : bytesPrefix? 3 s.toList.reverse = some finish.reverse := by
  refine bytesPrefix?_eq_some_iff.mpr ⟨List.reverse_prefix.mpr h.ends, ?_⟩
  rw [Utf8.length_encodeChars_reverse, h.length_finish]

/-- The two ends do not meet. -/
theorem exists_middle (h : HasEnds s start finish) : ∃ middle, s.toList = start ++ middle ++ finish := by
  obtain ⟨rest, hrest⟩ := h.begins
  obtain ⟨front, hfront⟩ := h.ends
  obtain ⟨middle, rfl, rfl⟩ | ⟨middle, rfl, rfl⟩ := List.append_eq_append_iff.mp (hrest.trans hfront.symm)
  · exact ⟨middle, hfront.symm⟩
  · have hlong := h.long
    have hstart := h.length_start
    have hfinish := h.length_finish
    rw [Utf8.encode, ← hfront] at hlong
    simp only [Utf8.encodeChars_append, List.length_append] at hlong hstart hfinish
    omega

theorem decode?_take (h : HasEnds s start finish) :
    Utf8.decode? ((Utf8.encode s).take 3) = some (String.ofList start) := by
  obtain ⟨rest, hrest⟩ := h.begins
  rw [Utf8.encode, ← hrest, Utf8.encodeChars_append, List.take_left' h.length_start,
    Utf8.decode?_encodeChars]

theorem decode?_drop (h : HasEnds s start finish) :
    Utf8.decode? ((Utf8.encode s).drop ((Utf8.encode s).length - 3)) = some (String.ofList finish) := by
  obtain ⟨front, hfront⟩ := h.ends
  have hlength : (Utf8.encodeChars front).length = (Utf8.encodeChars s.toList).length - 3 := by
    rw [← hfront, Utf8.encodeChars_append, List.length_append, h.length_finish, Nat.add_sub_cancel]
  rw [Utf8.encode, ← hlength, ← hfront, Utf8.encodeChars_append, List.drop_left' rfl,
    Utf8.decode?_encodeChars]

theorem redacted_eq (h : HasEnds s start finish) :
    redacted s = String.ofList (start ++ ['*', '*', '*'] ++ finish) := by
  have hlong : 12 ≤ (Utf8.encodeChars s.toList).length := h.long
  simp only [redacted, h.first, h.last, List.reverse_reverse]
  rw [if_neg (by omega), if_neg (by omega)]

/-- Ends that are shown cannot be taken for a mask. -/
theorem redacted_ne (h : HasEnds s start finish) : redacted s ≠ "***" := by
  intro hmasked
  have hlength := congrArg String.length (h.redacted_eq.symm.trans hmasked)
  simp only [String.length_ofList, List.length_append] at hlength
  change start.length + 3 + finish.length = 3 at hlength
  have hstart : start = [] := List.length_eq_zero_iff.mp (by omega)
  have hthree := h.length_start
  rw [hstart] at hthree
  cases hthree

end HasEnds

theorem redacted_of_not_hasEnds (hs : s ≠ "") (h : ¬∃ start finish, HasEnds s start finish) :
    redacted s = "***" := by
  simp only [redacted, if_neg (Utf8.length_encodeChars_ne_zero hs)]
  split
  · rfl
  rename_i hlong
  split
  · rename_i start finish hfirst hlast
    obtain ⟨hbegins, hstart⟩ := bytesPrefix?_eq_some_iff.mp hfirst
    obtain ⟨hends, hfinish⟩ := bytesPrefix?_eq_some_iff.mp hlast
    rw [← Utf8.length_encodeChars_reverse] at hfinish
    rw [← finish.reverse_reverse, List.reverse_prefix] at hends
    exact absurd ⟨start, finish.reverse, Nat.le_of_not_lt hlong, hbegins, hends, hstart, hfinish⟩ h
  · rfl

/-- Whether there are such ends is seen from the bytes. -/
theorem exists_hasEnds_iff (hlong : 12 ≤ (Utf8.encode s).length) :
    (∃ start finish, HasEnds s start finish) ↔ Utf8.isBoundary (Utf8.encode s) 3 = true ∧
      Utf8.isBoundary (Utf8.encode s) ((Utf8.encode s).length - 3) = true := by
  rw [Utf8.encode, Utf8.isBoundary_encodeChars_iff, Utf8.isBoundary_encodeChars_iff]
  constructor
  · rintro ⟨start, finish, h⟩
    obtain ⟨middle, hs⟩ := h.exists_middle
    refine ⟨⟨start, h.begins, h.length_start⟩, start ++ middle, ⟨finish, hs.symm⟩, ?_⟩
    rw [hs, Utf8.encodeChars_append (start ++ middle), List.length_append, h.length_finish,
      Nat.add_sub_cancel]
  · rintro ⟨⟨start, hbegins, hstart⟩, front, ⟨finish, hfinish⟩, hfront⟩
    refine ⟨start, finish, hlong, hbegins, ⟨front, hfinish⟩, hstart, ?_⟩
    rw [Utf8.encode] at hlong
    rw [← hfinish, Utf8.encodeChars_append, List.length_append] at hfront hlong
    omega

/-- Redaction by the bytes alone. It comes to nothing if a character is cut. -/
def redactedBytes? (s : String) : Option String :=
  let bytes := Utf8.encode s
  let size := bytes.length
  if size = 0 then some "EMPTY"
  else if size < 12 ∨ ¬Utf8.isBoundary bytes 3 ∨ ¬Utf8.isBoundary bytes (size - 3) then some "***"
  else do
    let start ← Utf8.decode? (bytes.take 3)
    let finish ← Utf8.decode? (bytes.drop (size - 3))
    return start ++ "***" ++ finish

/-- No character is ever cut. -/
theorem redactedBytes?_eq (s : String) : redactedBytes? s = some (redacted s) := by
  by_cases hempty : s = ""
  · rw [hempty]
    rfl
  have hsize : ¬(Utf8.encode s).length = 0 := Utf8.length_encodeChars_ne_zero hempty
  simp only [redactedBytes?, if_neg hsize]
  by_cases hends : ∃ start finish, HasEnds s start finish
  · obtain ⟨start, finish, h⟩ := hends
    obtain ⟨hfirst, hlast⟩ := (exists_hasEnds_iff h.long).mp ⟨start, finish, h⟩
    have hshown : ¬((Utf8.encode s).length < 12 ∨ ¬Utf8.isBoundary (Utf8.encode s) 3 = true ∨
        ¬Utf8.isBoundary (Utf8.encode s) ((Utf8.encode s).length - 3) = true) := by
      rintro (hshort | hcut | hcut)
      · exact Nat.not_lt.mpr h.long hshort
      · exact hcut hfirst
      · exact hcut hlast
    rw [if_neg hshown, h.decode?_take, h.decode?_drop, h.redacted_eq, String.ofList_append,
      String.ofList_append]
    rfl
  · rw [redacted_of_not_hasEnds hempty hends, if_pos]
    by_cases hlong : 12 ≤ (Utf8.encode s).length
    · rw [exists_hasEnds_iff hlong] at hends
      exact .inr (Decidable.not_and_iff_not_or_not.mp hends)
    · exact .inl (Nat.lt_of_not_le hlong)

/-- What is shown of a secret: asterisks and at most three characters of either end. It is masked as a
whole exactly if it has fewer than twelve bytes or a character would have to be cut. -/
theorem redacted_shows_ends (s : String) :
    redactedBytes? s = some (redacted s) ∧
      (s ≠ "" → ∃ start middle finish, s.toList = start ++ middle ++ finish ∧ start.length ≤ 3 ∧
        finish.length ≤ 3 ∧ redacted s = String.ofList (start ++ ['*', '*', '*'] ++ finish)) ∧
      (s ≠ "" → (redacted s = "***" ↔ ¬∃ start finish, HasEnds s start finish)) := by
  refine ⟨redactedBytes?_eq s, fun hs => ?_, fun hs => ?_⟩
  · by_cases hends : ∃ start finish, HasEnds s start finish
    · obtain ⟨start, finish, h⟩ := hends
      obtain ⟨middle, hmiddle⟩ := h.exists_middle
      have hstart := Utf8.length_le_length_encodeChars start
      have hfinish := Utf8.length_le_length_encodeChars finish
      rw [h.length_start] at hstart
      rw [h.length_finish] at hfinish
      exact ⟨start, middle, finish, hmiddle, hstart, hfinish, h.redacted_eq⟩
    · exact ⟨[], s.toList, [], by simp, by simp, by simp, redacted_of_not_hasEnds hs hends⟩
  · exact ⟨fun hmasked ⟨_, _, h⟩ => h.redacted_ne hmasked, redacted_of_not_hasEnds hs⟩

/-- Twelve characters, with two of them in the first three bytes and one in the last three. -/
def accentedSecret : String := "éa012345678€"

theorem redacted_shows_ends_accentedSecret : accentedSecret ≠ "" ∧
    HasEnds accentedSecret ['é', 'a'] ['€'] ∧ redacted accentedSecret ≠ "***" := by
  have hne : accentedSecret ≠ "" := by decide
  have hends : HasEnds accentedSecret ['é', 'a'] ['€'] :=
    ⟨by decide +kernel, by decide +kernel, by decide +kernel, by decide +kernel, by decide +kernel⟩
  obtain ⟨-, -, hmasked⟩ := redacted_shows_ends accentedSecret
  exact ⟨hne, hends, fun h => (hmasked hne).mp h ⟨_, _, hends⟩⟩

/-- Eight characters, with twelve bytes. -/
def shortSecret : String := "abc日本xyz"

/-- A secret of fewer than twelve characters of which most are shown. -/
theorem redacted_shortSecret_ne : shortSecret ≠ "" ∧ shortSecret.length < 12 ∧
    redacted shortSecret ≠ "***" := by
  decide +kernel

end StorageAccess
