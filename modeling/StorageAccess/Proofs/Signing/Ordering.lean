import StorageAccess.Signing.Draft

/-! Sorting forgets in which order things came: permuted lists are sorted into the same one. -/
namespace StorageAccess

theorem nodup_eraseDups {α : Type} [BEq α] [LawfulBEq α] (l : List α) : l.eraseDups.Nodup := by
  generalize hn : l.length = n
  induction n using Nat.strongRecOn generalizing l with
  | ind n ih =>
    cases l with
    | nil => exact List.nodup_nil
    | cons a as =>
      have hlt : (as.filter fun b => !b == a).length < n := by
        have hle := as.length_filter_le fun b => !b == a
        simp only [List.length_cons] at hn
        omega
      rw [List.eraseDups_cons]
      exact List.nodup_cons.mpr ⟨by simp, ih _ hlt _ rfl⟩

theorem eraseDups_perm {α : Type} [BEq α] [LawfulBEq α] {l m : List α} (h : l.Perm m) :
    l.eraseDups.Perm m.eraseDups := by
  apply (List.perm_ext_iff_of_nodup (nodup_eraseDups l) (nodup_eraseDups m)).mpr
  intro x
  rw [List.mem_eraseDups, List.mem_eraseDups, h.mem_iff]

/-- A linear order leaves one way to sort. -/
theorem mergeSort_eq_of_perm {α : Type} (le : α → α → Bool)
    (trans : ∀ a b c, le a b = true → le b c = true → le a c = true)
    (total : ∀ a b, (le a b || le b a) = true)
    (antisymm : ∀ a b, le a b = true → le b a = true → a = b) {l m : List α} (h : l.Perm m) :
    l.mergeSort le = m.mergeSort le := by
  have hsorted : ∀ k : List α, (k.mergeSort le).Pairwise fun a b => le a b = true :=
    List.pairwise_mergeSort trans total
  refine List.Perm.eq_of_pairwise (fun a b _ _ => antisymm a b) (hsorted l) (hsorted m) ?_
  exact (List.mergeSort_perm l le).trans (h.trans (List.mergeSort_perm m le).symm)

/-- A function that can fail in one way only, over a list. -/
theorem mapM_eq_ite {α β ε : Type} {f : α → Except ε β} {p : α → Bool} {g : α → β} {e : ε}
    (hf : ∀ x, f x = if p x then .ok (g x) else .error e) (l : List α) :
    l.mapM f = if l.all p then .ok (l.map g) else .error e := by
  induction l with
  | nil => rfl
  | cons x xs ih =>
    rw [List.mapM_cons, hf, ih, List.all_cons]
    cases p x <;> cases xs.all p <;> rfl

namespace Draft

theorem textLe_iff {a b : String} : textLe a b = true ↔ a ≤ b := decide_eq_true_iff

theorem textLe_trans {a b c : String} (h1 : textLe a b = true) (h2 : textLe b c = true) :
    textLe a c = true :=
  textLe_iff.mpr (String.le_trans (textLe_iff.mp h1) (textLe_iff.mp h2))

theorem textLe_antisymm {a b : String} (h1 : textLe a b = true) (h2 : textLe b a = true) : a = b :=
  String.le_antisymm (textLe_iff.mp h1) (textLe_iff.mp h2)

theorem textLe_total (a b : String) : (textLe a b || textLe b a) = true := by
  rw [Bool.or_eq_true, textLe_iff, textLe_iff]
  exact String.le_total a b

theorem pairLe_iff {a b : String × String} : pairLe a b = true ↔
    (a.1 = b.1 ∧ textLe a.2 b.2 = true) ∨ (a.1 ≠ b.1 ∧ textLe a.1 b.1 = true) := by
  unfold pairLe
  by_cases h : a.1 = b.1 <;> simp [h]

theorem pairLe_trans {a b c : String × String} (h1 : pairLe a b = true) (h2 : pairLe b c = true) :
    pairLe a c = true := by
  rw [pairLe_iff] at h1 h2 ⊢
  obtain ⟨he1, hl1⟩ | ⟨hn1, hl1⟩ := h1
  · obtain ⟨he2, hl2⟩ | ⟨hn2, hl2⟩ := h2
    · exact .inl ⟨he1.trans he2, textLe_trans hl1 hl2⟩
    · exact .inr ⟨he1 ▸ hn2, he1 ▸ hl2⟩
  · obtain ⟨he2, hl2⟩ | ⟨hn2, hl2⟩ := h2
    · exact .inr ⟨he2 ▸ hn1, he2 ▸ hl1⟩
    · refine .inr ⟨fun he => hn1 ?_, textLe_trans hl1 hl2⟩
      exact textLe_antisymm hl1 (he ▸ hl2)

theorem pairLe_antisymm {a b : String × String} (h1 : pairLe a b = true) (h2 : pairLe b a = true) :
    a = b := by
  rw [pairLe_iff] at h1 h2
  obtain ⟨he, hl1⟩ | ⟨hn, hl1⟩ := h1
  · obtain ⟨-, hl2⟩ | ⟨hn, -⟩ := h2
    · exact Prod.ext he (textLe_antisymm hl1 hl2)
    · exact absurd he.symm hn
  · obtain ⟨he, -⟩ | ⟨-, hl2⟩ := h2
    · exact absurd he.symm hn
    · exact absurd (textLe_antisymm hl1 hl2) hn

theorem pairLe_total (a b : String × String) : (pairLe a b || pairLe b a) = true := by
  rw [Bool.or_eq_true, pairLe_iff, pairLe_iff]
  by_cases h : a.1 = b.1
  · have ht := textLe_total a.2 b.2
    rw [Bool.or_eq_true] at ht
    exact ht.imp (fun hl => .inl ⟨h, hl⟩) fun hl => .inl ⟨h.symm, hl⟩
  · have ht := textLe_total a.1 b.1
    rw [Bool.or_eq_true] at ht
    exact ht.imp (fun hl => .inr ⟨h, hl⟩) fun hl => .inr ⟨Ne.symm h, hl⟩

/-- Pairs are sorted into the same list however they came. -/
theorem mergeSort_pairLe_of_perm {l m : List (String × String)} (h : l.Perm m) :
    l.mergeSort pairLe = m.mergeSort pairLe :=
  mergeSort_eq_of_perm pairLe (fun _ _ _ => pairLe_trans) pairLe_total
    (fun _ _ => pairLe_antisymm) h

theorem mergeSort_textLe_of_perm {l m : List String} (h : l.Perm m) :
    l.mergeSort textLe = m.mergeSort textLe :=
  mergeSort_eq_of_perm textLe (fun _ _ _ => textLe_trans) textLe_total
    (fun _ _ => textLe_antisymm) h

end Draft

end StorageAccess
