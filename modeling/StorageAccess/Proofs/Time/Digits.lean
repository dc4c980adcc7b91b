import StorageAccess.Time.Rfc3339
import StorageAccess.Time.Text

/-! Numbers of a fixed width. They are read as they were written, and their texts are in the order of the
numbers. -/
namespace StorageAccess

/-- The last digit comes off the end. -/
theorem zeroPadded_succ (width n : Nat) : zeroPadded (width + 2) n =
    zeroPadded (width + 1) (n / 10) ++ [Nat.digitChar (n % 10)] := by
  unfold zeroPadded
  rw [Nat.toDigits_eq_if (by decide)]
  split
  · rename_i h
    have hzero : n / 10 = 0 := by omega
    rw [hzero, Nat.mod_eq_of_lt h]
    simp [List.replicate_succ', Nat.toDigits_zero]
  · simp

theorem zeroPadded_two {n : Nat} (h : n < 100) : zeroPadded 2 n = twoDigits n := by
  have htens : zeroPadded 1 (n / 10) = [Nat.digitChar (n / 10)] := by
    unfold zeroPadded
    rw [Nat.toDigits_of_lt_base (by omega)]
    rfl
  rw [zeroPadded_succ, htens]
  rfl

theorem zeroPadded_four {n : Nat} (h : n < 10000) :
    zeroPadded 4 n = twoDigits (n / 100) ++ twoDigits (n % 100) := by
  have hhundreds : n / 10 / 10 = n / 100 := by omega
  have htens : n / 10 % 10 = n % 100 / 10 := by omega
  have hones : n % 10 = n % 100 % 10 := by omega
  rw [zeroPadded_succ, zeroPadded_succ, hhundreds, zeroPadded_two (by omega), htens, hones]
  simp [twoDigits]

theorem foldl_twoDigits {n : Nat} (h : n < 100) (before : Nat) :
    (twoDigits n).foldl (fun n c => 10 * n + (c.toNat - 48)) before = 100 * before + n := by
  have htens := Nat.toNat_digitChar_of_lt_ten (show n / 10 < 10 by omega)
  have hones := Nat.toNat_digitChar_of_lt_ten (show n % 10 < 10 by omega)
  simp only [twoDigits, List.foldl_cons, List.foldl_nil, htens, hones]
  omega

theorem all_isDigit_twoDigits {n : Nat} (h : n < 100) : (twoDigits n).all Char.isDigit = true := by
  have htens : n / 10 < 10 := by omega
  have hones : n % 10 < 10 := by omega
  simp [twoDigits, htens, hones]

theorem Rfc3339.number_append (width : Nat) {digits : List Char} (hl : digits.length = width)
    (hd : digits.all Char.isDigit = true) (rest : List Char) :
    number width (digits ++ rest) = some (ofDigits digits, rest) := by
  rw [number, List.take_left' hl, List.drop_left' hl]
  exact if_pos ⟨hl, hd⟩

theorem Rfc3339.number_twoDigits {n : Nat} (h : n < 100) (rest : List Char) :
    number 2 (twoDigits n ++ rest) = some (n, rest) := by
  rw [number_append 2 rfl (all_isDigit_twoDigits h), ofDigits, foldl_twoDigits h]
  simp

theorem Rfc3339.number_fourDigits {m n : Nat} (hm : m < 100) (hn : n < 100) (rest : List Char) :
    number 4 (twoDigits m ++ twoDigits n ++ rest) = some (100 * m + n, rest) := by
  have hdigits : (twoDigits m ++ twoDigits n).all Char.isDigit = true := by
    rw [List.all_append, all_isDigit_twoDigits hm, all_isDigit_twoDigits hn]
    rfl
  rw [number_append 4 rfl hdigits, ofDigits, List.foldl_append, foldl_twoDigits hm, foldl_twoDigits hn]
  simp

theorem digitChar_lt {m n : Nat} (h : m < n) (hn : n < 10) : Nat.digitChar m < Nat.digitChar n := by
  have hall : ∀ n < 10, ∀ m < n, Nat.digitChar m < Nat.digitChar n := by decide
  exact hall n hn m h

/-- Of texts that begin with different numbers, the numbers decide. -/
theorem twoDigits_append_lt {m n : Nat} (h : m < n) (hn : n < 100) (xs ys : List Char) :
    twoDigits m ++ xs < twoDigits n ++ ys := by
  unfold twoDigits
  obtain hlt | ⟨heq, hlt⟩ : m / 10 < n / 10 ∨ m / 10 = n / 10 ∧ m % 10 < n % 10 := by omega
  · exact .rel (digitChar_lt hlt (by omega))
  · rw [heq]
    exact .cons (.rel (digitChar_lt hlt (by omega)))

end StorageAccess
