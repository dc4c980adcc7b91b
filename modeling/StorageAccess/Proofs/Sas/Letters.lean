import StorageAccess.Sas.Policy

/-! Sets in letters. What letters are read as depends only on which there are, and what a set is written as
only on its members: each letter once, in the order of declaration. -/
namespace StorageAccess.CodeSet

variable {α : Type} [Coded α] {s : CodeSet α} {c : Char} {cs : List Char}

/-- The letters of all the things, in the order of declaration. -/
def letters (α : Type) [Coded α] : List Char := (Coded.all : List α).map Coded.letter

theorem nodup_letters : (letters α).Nodup :=
  List.Pairwise.map _ (fun x y hne he => hne (Coded.letter_injective x y he)) Coded.nodup_all

theorem letter_mem_letters (x : α) : Coded.letter x ∈ letters α :=
  List.mem_map.mpr ⟨x, Coded.mem_all x, rfl⟩

theorem ofLetter?_letter (x : α) : ofLetter? (Coded.letter x) = some x := by
  cases h : (ofLetter? (Coded.letter x) : Option α) with
  | none => exact absurd (beq_self_eq_true _) (List.find?_eq_none.mp h x (Coded.mem_all x))
  | some y =>
    have hletter : Coded.letter y = Coded.letter x := by
      simpa using List.find?_some (p := fun y => Coded.letter y == Coded.letter x) h
    rw [Coded.letter_injective y x hletter]

theorem ofLetter?_eq_none (h : c ∉ letters α) : (ofLetter? c : Option α) = none := by
  refine List.find?_eq_none.mpr fun x hx hc => h ?_
  exact List.mem_map.mpr ⟨x, hx, beq_iff_eq.mp hc⟩

theorem isEmpty_iff : s.isEmpty = true ↔ ∀ x, s.has x = false := by
  simp [isEmpty, Coded.mem_all]

theorem hasLetter_iff : s.hasLetter c = true ↔ ∃ x, s.has x = true ∧ Coded.letter x = c := by
  simp [hasLetter]

theorem hasLetter_letter (s : CodeSet α) (x : α) : s.hasLetter (Coded.letter x) = s.has x := by
  rw [Bool.eq_iff_iff, hasLetter_iff]
  refine ⟨?_, fun hx => ⟨x, hx, rfl⟩⟩
  rintro ⟨y, hy, he⟩
  exact Coded.letter_injective y x he ▸ hy

theorem mem_text : c ∈ s.text.toList ↔ ∃ x, s.has x = true ∧ Coded.letter x = c := by
  simp [text]

/-- Each letter is written once, in the order of declaration. -/
theorem text_eq_filter (s : CodeSet α) : s.text = String.ofList ((letters α).filter s.hasLetter) := by
  have hhas : s.hasLetter ∘ Coded.letter = s.has := funext s.hasLetter_letter
  rw [text, toList, letters, List.filter_map, hhas]

/-- The things whose letters are in a list. -/
def ofLetters (cs : List Char) : CodeSet α := ⟨fun x => cs.contains (Coded.letter x)⟩

/-- Lists of letters have the same things exactly if they have the same letters. -/
theorem ofLetters_eq_iff {ds : List Char} (hc : ∀ c ∈ cs, c ∈ letters α) (hd : ∀ c ∈ ds, c ∈ letters α) :
    (ofLetters cs : CodeSet α) = ofLetters ds ↔ ∀ c, c ∈ cs ↔ c ∈ ds := by
  constructor
  · intro h c
    have hsame : c ∈ letters α → (c ∈ cs ↔ c ∈ ds) := by
      intro hm
      obtain ⟨x, -, rfl⟩ := List.mem_map.mp hm
      rw [← List.contains_iff_mem, ← List.contains_iff_mem]
      exact Bool.eq_iff_iff.mp (congrFun (congrArg has h) x)
    exact ⟨fun hm => (hsame (hc c hm)).mp hm, fun hm => (hsame (hd c hm)).mpr hm⟩
  · intro h
    ext x
    simp [ofLetters, h]

theorem text_ofLetters (cs : List Char) :
    (ofLetters cs : CodeSet α).text = String.ofList ((letters α).filter cs.contains) := by
  rw [text, toList, letters, List.filter_map]
  rfl

/-- Permissions are written in the order of a scope if the scope has them all. -/
theorem inOrder_eq_ok_iff {s : CodeSet Permission} {order text : String} : s.inOrder order = .ok text ↔
    (∀ p, s.has p = true → Coded.letter p ∈ order.toList) ∧
      text = String.ofList (order.toList.filter s.hasLetter) := by
  unfold inOrder
  split
  · rename_i p hp
    have hfound := List.find?_some hp
    have hmem := mem_toList.mp (List.mem_of_find?_eq_some hp)
    simp only [Bool.not_eq_true', List.contains_eq_mem, decide_eq_false_iff_not] at hfound
    exact ⟨nofun, fun h => absurd (h.1 p hmem) hfound⟩
  · rename_i hnone
    have hall : ∀ p, s.has p = true → Coded.letter p ∈ order.toList := by
      simpa using List.find?_eq_none.mp hnone
    rw [Except.ok.injEq]
    exact ⟨fun h => ⟨hall, h.symm⟩, fun h => h.2.symm⟩

theorem exists_inOrder_iff {s : CodeSet Permission} {order : String} :
    (∃ text, s.inOrder order = .ok text) ↔ ∀ p, s.has p = true → Coded.letter p ∈ order.toList := by
  constructor
  · rintro ⟨text, h⟩
    exact (inOrder_eq_ok_iff.mp h).1
  · intro h
    exact ⟨_, inOrder_eq_ok_iff.mpr ⟨h, rfl⟩⟩

variable [DecidableEq α]

/-- One more letter is read. -/
def addLetter (text : String) (s : CodeSet α) (c : Char) : Except Error (CodeSet α) :=
  match ofLetter? c with
  | some x => .ok (s.add x)
  | none => .error (unknownLetter α c text)

theorem addLetter_letter (text : String) (s : CodeSet α) (x : α) :
    addLetter text s (Coded.letter x) = .ok (s.add x) := by
  rw [addLetter, ofLetter?_letter]

theorem addLetter_of_not_mem (text : String) (s : CodeSet α) (h : c ∉ letters α) :
    addLetter text s c = .error (unknownLetter α c text) := by
  rw [addLetter, ofLetter?_eq_none h]

theorem ofText_eq_foldlM (text : String) :
    (ofText text : Except Error (CodeSet α)) = text.toList.foldlM (addLetter text) empty := rfl

/-- The order of letters does not count, nor does their number. -/
theorem foldlM_addLetter (text : String) (h : ∀ c ∈ cs, c ∈ letters α) (s : CodeSet α) :
    cs.foldlM (addLetter text) s = .ok ⟨fun x => s.has x || cs.contains (Coded.letter x)⟩ := by
  induction cs generalizing s with
  | nil => simp; rfl
  | cons c cs ih =>
    rw [List.forall_mem_cons] at h
    obtain ⟨x, -, rfl⟩ := List.mem_map.mp h.1
    rw [List.foldlM_cons, addLetter_letter]
    refine (ih h.2 (s.add x)).trans (congrArg Except.ok (ext fun y => ?_))
    have hletter : (Coded.letter y == Coded.letter x) = (y == x) := by
      rw [Bool.eq_iff_iff, beq_iff_eq, beq_iff_eq]
      exact ⟨Coded.letter_injective y x, congrArg Coded.letter⟩
    simp only [add, List.contains_cons, hletter]
    rw [Bool.or_left_comm, Bool.or_assoc]

/-- The first letter that stands for nothing is complained about. -/
theorem foldlM_addLetter_of_find? (text : String)
    (h : cs.find? (fun c => !(letters α).contains c) = some c) (s : CodeSet α) :
    cs.foldlM (addLetter text) s = .error (unknownLetter α c text) := by
  induction cs generalizing s with
  | nil => cases h
  | cons d cs ih =>
    rw [List.foldlM_cons]
    by_cases hd : d ∈ letters α
    · obtain ⟨x, -, rfl⟩ := List.mem_map.mp hd
      rw [List.find?_cons_of_neg (by simpa using hd)] at h
      rw [addLetter_letter]
      exact ih h (s.add x)
    · rw [List.find?_cons_of_pos (by simpa using hd), Option.some.injEq] at h
      rw [addLetter_of_not_mem text s hd, h]
      rfl

theorem ofText_eq_ok_iff {text : String} : ofText text = .ok s ↔
    (∀ c ∈ text.toList, c ∈ letters α) ∧ s = ofLetters text.toList := by
  rw [ofText_eq_foldlM]
  constructor
  · intro h
    cases hf : text.toList.find? fun c => !(letters α).contains c with
    | some c =>
      rw [foldlM_addLetter_of_find? text hf] at h
      cases h
    | none =>
      have hall : ∀ c ∈ text.toList, c ∈ letters α := by simpa using List.find?_eq_none.mp hf
      rw [foldlM_addLetter text hall, Except.ok.injEq] at h
      exact ⟨hall, h.symm⟩
  · rintro ⟨hall, rfl⟩
    rw [foldlM_addLetter text hall]
    rfl

/-- What is written is read. -/
theorem ofText_text (s : CodeSet α) : ofText s.text = .ok s := by
  refine ofText_eq_ok_iff.mpr ⟨fun c hc => ?_, ext fun x => ?_⟩
  · obtain ⟨x, -, rfl⟩ := mem_text.mp hc
    exact letter_mem_letters x
  · rw [Bool.eq_iff_iff, ofLetters, List.contains_iff_mem, mem_text, ← hasLetter_iff, hasLetter_letter]

end StorageAccess.CodeSet
