import StorageAccess.Text.Join
import StorageAccess.Text.Lowercase
import StorageAccess.Time.Text

/-! Texts between separators. Texts without a separator in them are all that so many joined texts can
have been, since any separator inside one of them would be one too many. Lines are such texts, with ends
of lines between them. -/
namespace StorageAccess

theorem append_cons_inj_of_not_mem {α : Type} [BEq α] [LawfulBEq α] {c : α} {a b x y : List α}
    (ha : c ∉ a) (hb : c ∉ b) (h : a ++ c :: x = b ++ c :: y) : a = b ∧ x = y := by
  have hfront : ∀ {l : List α} (z : List α), c ∉ l → (l ++ c :: z).takeWhile (· != c) = l := by
    intro l z hl
    have hne : ∀ d ∈ l, (d != c) = true := fun d hd => bne_iff_ne.mpr fun he => hl (he ▸ hd)
    rw [List.takeWhile_append_of_pos hne, List.takeWhile_cons, if_neg (by simp), List.append_nil]
  have hab : a = b := by rw [← hfront x ha, h, hfront y hb]
  subst hab
  exact ⟨rfl, (List.cons.inj (List.append_cancel_left h)).2⟩

section separator

variable {separator : String} {c : Char} {s t : String} {texts others : List String}

theorem toList_joinWith_cons (hs : separator.toList = [c]) (h : texts ≠ []) :
    (joinWith separator (s :: texts)).toList = s.toList ++ c :: (joinWith separator texts).toList := by
  rw [joinWith_cons h, String.toList_append, String.toList_append, hs, List.append_assoc]
  rfl

/-- There is one separator less than there are texts, but for those inside the texts. -/
theorem count_joinWith (hs : separator.toList = [c]) (h : texts ≠ []) :
    (joinWith separator texts).toList.count c + 1 =
      (texts.flatMap String.toList).count c + texts.length := by
  induction texts with
  | nil => exact absurd rfl h
  | cons s rest ih =>
    by_cases hr : rest = []
    · simp [hr, joinWith]
    · have hrest := ih hr
      rw [toList_joinWith_cons hs hr, List.flatMap_cons, List.count_append, List.count_append,
        List.count_cons_self, List.length_cons]
      omega

/-- The first of several texts ends where the first separator stands. -/
theorem joinWith_cons_inj (hs : separator.toList = [c]) (hc : c ∉ s.toList) (hd : c ∉ t.toList)
    (hl : texts ≠ []) (hm : others ≠ [])
    (h : joinWith separator (s :: texts) = joinWith separator (t :: others)) :
    s = t ∧ joinWith separator texts = joinWith separator others := by
  rw [← String.toList_inj, toList_joinWith_cons hs hl, toList_joinWith_cons hs hm] at h
  obtain ⟨hst, hrest⟩ := append_cons_inj_of_not_mem hc hd h
  exact ⟨String.toList_inj.mp hst, String.toList_inj.mp hrest⟩

/-- Nothing need be known of the second texts but how many they are. -/
theorem eq_of_joinWith_eq (hs : separator.toList = [c]) (ht : ∀ s ∈ texts, c ∉ s.toList)
    (hl : texts.length = others.length)
    (h : joinWith separator texts = joinWith separator others) : texts = others := by
  induction texts generalizing others with
  | nil => exact (List.length_eq_zero_iff.mp hl.symm).symm
  | cons s rest ih =>
    obtain ⟨t, more, rfl⟩ := List.exists_cons_of_length_eq_add_one hl.symm
    have hfree : c ∉ ((s :: rest).flatMap String.toList) := fun hm => by
      obtain ⟨u, hu, hcu⟩ := List.mem_flatMap.mp hm
      exact ht u hu hcu
    -- as many separators stand between the others, which leaves none for the inside of them
    have hothers : ((t :: more).flatMap String.toList).count c = 0 := by
      have h1 := count_joinWith hs (List.cons_ne_nil s rest)
      have h2 := count_joinWith hs (List.cons_ne_nil t more)
      rw [List.count_eq_zero.mpr hfree, h, hl] at h1
      omega
    have hd : c ∉ t.toList := fun hm =>
      List.count_eq_zero.mp hothers (List.mem_flatMap.mpr ⟨t, List.mem_cons_self, hm⟩)
    have hrest : rest.length = more.length := Nat.succ.inj hl
    by_cases hr : rest = []
    · have hm : more = [] := List.length_eq_zero_iff.mp (by rw [← hrest, hr]; rfl)
      rw [hr, hm] at h ⊢
      rw [show s = t from h]
    · have hm : more ≠ [] := fun hm => hr (List.length_eq_zero_iff.mp (by rw [hrest, hm]; rfl))
      obtain ⟨hst, htail⟩ := joinWith_cons_inj hs (ht s List.mem_cons_self) hd hr hm h
      rw [hst, ih (fun u hu => ht u (List.mem_cons_of_mem _ hu)) hrest htail]

/-- As many texts without separators end alike before two last texts, whatever is in these. -/
theorem joinWith_append_inj (hs : separator.toList = [c]) (ht : ∀ u ∈ texts, c ∉ u.toList)
    (ho : ∀ u ∈ others, c ∉ u.toList) (hl : texts.length = others.length)
    (h : joinWith separator (texts ++ [s]) = joinWith separator (others ++ [t])) :
    texts = others ∧ s = t := by
  induction texts generalizing others with
  | nil =>
    cases List.length_eq_zero_iff.mp hl.symm
    exact ⟨rfl, h⟩
  | cons u rest ih =>
    obtain ⟨v, more, rfl⟩ := List.exists_cons_of_length_eq_add_one hl.symm
    obtain ⟨huv, htail⟩ := joinWith_cons_inj hs (ht u List.mem_cons_self) (ho v List.mem_cons_self)
      (List.append_ne_nil_of_right_ne_nil rest (List.cons_ne_nil s []))
      (List.append_ne_nil_of_right_ne_nil more (List.cons_ne_nil t [])) h
    obtain ⟨hrest, hst⟩ := ih (fun w hw => ht w (List.mem_cons_of_mem u hw))
      (fun w hw => ho w (List.mem_cons_of_mem v hw)) (Nat.succ.inj hl) htail
    exact ⟨by rw [huv, hrest], hst⟩

/-- With one more separator at the end, each text has its own. -/
theorem toList_joinWith_append (hs : separator.toList = [c]) (h : texts ≠ []) :
    (joinWith separator texts ++ separator).toList = texts.flatMap fun u => u.toList ++ [c] := by
  induction texts with
  | nil => exact absurd rfl h
  | cons u rest ih =>
    by_cases hr : rest = []
    · simp [hr, joinWith, hs]
    · rw [String.toList_append, toList_joinWith_cons hs hr, List.append_assoc, List.cons_append,
        ← String.toList_append, ih hr, List.flatMap_cons, List.append_assoc]
      rfl

end separator

/-- A text without the end of a line. -/
def IsLine (s : String) : Prop := '\n' ∉ s.toList

instance (s : String) : Decidable (IsLine s) := by unfold IsLine; infer_instance

theorem isLine_append {s t : String} : IsLine (s ++ t) ↔ IsLine s ∧ IsLine t := by
  simp [IsLine, not_or]

theorem isLine_joinWith {separator : String} {texts : List String} (hs : IsLine separator)
    (ht : ∀ s ∈ texts, IsLine s) : IsLine (joinWith separator texts) := by
  induction texts with
  | nil => exact List.not_mem_nil
  | cons s rest ih =>
    by_cases hr : rest = []
    · rw [hr]
      exact ht s List.mem_cons_self
    · rw [joinWith_cons hr]
      exact isLine_append.mpr ⟨isLine_append.mpr ⟨ht s List.mem_cons_self, hs⟩,
        ih fun t hm => ht t (List.mem_cons_of_mem s hm)⟩

namespace Lowercase

theorem ofNat_ne_newline {n : Nat} (h : 10 < n) : Char.ofNat n ≠ '\n' := by
  intro he
  by_cases hv : n.isValidChar
  · have hn : (Char.ofNat n).toNat = n := by
      rw [Char.ofNat, dif_pos hv]
      rfl
    rw [he] at hn
    change 10 = n at hn
    omega
  · rw [Char.ofNat, dif_neg hv] at he
    exact absurd he (by decide)

/-- Small letters stand after the control characters. -/
theorem ofChar_ne_newline {c : Char} (h : c ≠ '\n') : ofChar c ≠ '\n' := by
  have hruns : ∀ run ∈ CaseTable.runs, 10 < run.target := by decide +kernel
  unfold ofChar
  split
  · rename_i run hrun
    have htarget := hruns run (List.mem_of_find?_eq_some hrun)
    exact ofNat_ne_newline (by omega)
  · exact h

theorem newline_not_mem_chars {cs : List Char} (before : List Char) (h : '\n' ∉ cs) :
    '\n' ∉ chars before cs := by
  induction cs generalizing before with
  | nil => exact List.not_mem_nil
  | cons c rest ih =>
    rw [List.mem_cons, not_or] at h
    rw [chars, List.mem_append, not_or]
    refine ⟨?_, ih _ h.2⟩
    split
    · unfold sigma
      split <;> decide
    · split
      · decide
      · rw [List.mem_singleton]
        exact (ofChar_ne_newline (Ne.symm h.1)).symm

end Lowercase

theorem isLine_lowercase {s : String} (h : IsLine s) : IsLine (lowercase s) := by
  rw [IsLine, lowercase, String.toList_ofList]
  exact Lowercase.newline_not_mem_chars [] h

theorem newline_not_mem_zeroPadded (width n : Nat) : '\n' ∉ zeroPadded width n := by
  unfold zeroPadded
  rw [List.mem_append, List.mem_replicate, not_or]
  refine ⟨by simp, fun h => ?_⟩
  exact absurd (Nat.isDigit_of_mem_toDigits (by decide) (by decide) h) (by decide)

theorem Instant.isLine_iso8601 (t : Instant) : IsLine t.iso8601 := by
  have hyear : '\n' ∉ Date.yearChars t.date.year := by
    unfold Date.yearChars
    split
    · exact newline_not_mem_zeroPadded _ _
    · split <;> simp [newline_not_mem_zeroPadded]
  rw [IsLine, iso8601, String.toList_ofList]
  simp [Date.chars, clockChars, newline_not_mem_zeroPadded, hyear]

end StorageAccess
