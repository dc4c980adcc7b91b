import StorageAccess.Proofs.Bytes.CanonicalKey

/-! What signatures and keys look like: a signature is a text of digits of Base64 and not empty, and a
key has bytes unless its text is empty. -/
namespace StorageAccess

namespace Base64

/-- The digits, and the sign that fills up the last group. -/
def IsDigit (c : Char) : Prop := 0x2B ≤ c.toNat ∧ c.toNat ≤ 0x7A

instance (c : Char) : Decidable (IsDigit c) := by unfold IsDigit; infer_instance

theorem isDigit_digit (n : Nat) : IsDigit (digit n) := by
  have hall : ∀ n < 63, IsDigit (digit n) := by decide
  by_cases h : n < 63
  · exact hall n h
  · have hd : digit n = '/' := by
      rw [digit, if_neg (by omega), if_neg (by omega), if_neg (by omega), if_neg (by omega)]
    rw [hd]
    decide

theorem isDigit_of_mem_encodeChars {bytes : List UInt8} {c : Char} (h : c ∈ encodeChars bytes) :
    IsDigit c := by
  induction bytes using encodeChars.induct with
  | case1 => simp [encodeChars] at h
  | case2 a =>
    simp only [encodeChars, List.mem_cons, List.not_mem_nil, or_false] at h
    obtain rfl | rfl | rfl | rfl := h <;> first | exact isDigit_digit _ | decide
  | case3 a b =>
    simp only [encodeChars, List.mem_cons, List.not_mem_nil, or_false] at h
    obtain rfl | rfl | rfl | rfl := h <;> first | exact isDigit_digit _ | decide
  | case4 a b c rest ih =>
    simp only [encodeChars, List.mem_cons] at h
    obtain rfl | rfl | rfl | rfl | h := h
    · exact isDigit_digit _
    · exact isDigit_digit _
    · exact isDigit_digit _
    · exact isDigit_digit _
    · exact ih h

theorem encodeChars_eq_nil_iff {bytes : List UInt8} : encodeChars bytes = [] ↔ bytes = [] := by
  cases bytes using encodeChars.fun_cases with
  | _ => simp [encodeChars]

end Base64

namespace AccountKey

theorem bytes_eq_nil_iff {key : AccountKey} : key.bytes = [] ↔ key.encoded = "" := by
  rw [encoded_eq_encode, Base64.encode, ← String.toList_inj, String.toList_ofList]
  exact Base64.encodeChars_eq_nil_iff.symm

def threeBytes : AccountKey := ⟨"a2V5", [0x6B, 0x65, 0x79], by decide +kernel⟩

theorem isDigit_of_mem_sign {key : AccountKey} {s : String} {c : Char}
    (h : c ∈ (key.sign s).toList) : Base64.IsDigit c := by
  rw [sign, Base64.encode, String.toList_ofList] at h
  exact Base64.isDigit_of_mem_encodeChars h

theorem sign_ne_empty (key : AccountKey) (s : String) : key.sign s ≠ "" := by
  intro h
  rw [sign, Base64.encode, ← String.toList_inj, String.toList_ofList] at h
  cases Base64.encodeChars_eq_nil_iff.mp h

end AccountKey

end StorageAccess
