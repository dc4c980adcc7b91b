import StorageAccess.AccountKey
import StorageAccess.Proofs.Text.Utf8RoundTrip

/-! Keys are written in one way. A group of digits is read as some bytes exactly if it is how these bytes
are written, so that a text is a key exactly if it is the written form of the bytes that it is read as. -/
namespace StorageAccess

namespace Base64

variable {a b c d : Char} {n : Nat} {cs : List Char} {bytes : List UInt8} {s : String}

theorem value?_digit (h : n < 64) : value? (digit n) = some n := by
  have hall : ∀ n < 64, value? (digit n) = some n := by decide
  exact hall n h

/-- The sign that fills up the last group is no digit. -/
theorem digit_ne_fill (h : n < 64) : digit n ≠ '=' := by
  have hall : ∀ n < 64, digit n ≠ '=' := by decide
  exact hall n h

theorem digit_of_value? (h : value? c = some n) : n < 64 ∧ digit n = c := by
  unfold value? at h
  split at h
  · rename_i hc
    obtain ⟨hlow, hhigh⟩ : 65 ≤ c.toNat ∧ c.toNat ≤ 90 := hc
    obtain rfl := Option.some.inj h
    refine ⟨by omega, ?_⟩
    rw [digit, if_pos (by omega), Nat.add_sub_cancel' hlow, Char.ofNat_toNat]
  split at h
  · rename_i hc
    obtain ⟨hlow, hhigh⟩ : 97 ≤ c.toNat ∧ c.toNat ≤ 122 := hc
    obtain rfl := Option.some.inj h
    refine ⟨by omega, ?_⟩
    rw [digit, if_neg (by omega), if_pos (by omega), Nat.add_sub_cancel' (by omega),
      Char.ofNat_toNat]
  split at h
  · rename_i hc
    obtain ⟨hlow, hhigh⟩ : 48 ≤ c.toNat ∧ c.toNat ≤ 57 := hc
    obtain rfl := Option.some.inj h
    refine ⟨by omega, ?_⟩
    rw [digit, if_neg (by omega), if_neg (by omega), if_pos (by omega), Nat.add_sub_cancel,
      Char.ofNat_toNat]
  split at h
  · rename_i hc
    cases h
    exact ⟨by decide, hc ▸ rfl⟩
  split at h
  · rename_i hc
    cases h
    exact ⟨by decide, hc ▸ rfl⟩
  · cases h

/-- Three bytes are read from their four digits. -/
theorem decodeFull_digits (x y z : UInt8) :
    decodeFull (digit (x.toNat / 4)) (digit (x.toNat % 4 * 16 + y.toNat / 16))
      (digit (y.toNat % 16 * 4 + z.toNat / 64)) (digit (z.toNat % 64)) = some [x, y, z] := by
  have hx := x.toNat_lt
  have hy := y.toNat_lt
  have hz := z.toNat_lt
  rw [decodeFull, value?_digit (by omega), value?_digit (by omega), value?_digit (by omega),
    value?_digit (by omega)]
  change some [_, _, _] = some [x, y, z]
  simp only [Option.some.injEq, List.cons.injEq, and_true, ← UInt8.toNat_inj]
  refine ⟨?_, ?_, ?_⟩ <;> rw [Utf8.toNat_toUInt8 (by omega)] <;> omega

theorem decodePadded_digits_two (x y : UInt8) :
    decodePadded (digit (x.toNat / 4)) (digit (x.toNat % 4 * 16 + y.toNat / 16))
      (digit (y.toNat % 16 * 4)) '=' = some [x, y] := by
  have hx := x.toNat_lt
  have hy := y.toNat_lt
  rw [decodePadded, if_pos rfl, if_neg (digit_ne_fill (by omega)), value?_digit (by omega),
    value?_digit (by omega), value?_digit (by omega)]
  change (if _ then some [_, _] else none) = some [x, y]
  rw [if_pos (by omega)]
  simp only [Option.some.injEq, List.cons.injEq, and_true, ← UInt8.toNat_inj]
  refine ⟨?_, ?_⟩ <;> rw [Utf8.toNat_toUInt8 (by omega)] <;> omega

theorem decodePadded_digits_one (x : UInt8) :
    decodePadded (digit (x.toNat / 4)) (digit (x.toNat % 4 * 16)) '=' '=' = some [x] := by
  have hx := x.toNat_lt
  rw [decodePadded, if_pos rfl, if_pos rfl, value?_digit (by omega), value?_digit (by omega)]
  change (if _ then some [_] else none) = some [x]
  rw [if_pos (by omega)]
  simp only [Option.some.injEq, List.cons.injEq, and_true, ← UInt8.toNat_inj]
  rw [Utf8.toNat_toUInt8 (by omega)]
  omega

/-- What is written is read. -/
theorem decodeChars_encodeChars (bytes : List UInt8) : decodeChars (encodeChars bytes) = some bytes := by
  induction bytes using encodeChars.induct with
  | case1 => rfl
  | case2 x =>
    rw [encodeChars, decodeChars, if_pos ⟨rfl, rfl⟩]
    exact decodePadded_digits_one x
  | case3 x y =>
    rw [encodeChars, decodeChars, if_pos ⟨rfl, rfl⟩]
    exact decodePadded_digits_two x y
  | case4 x y z rest ih =>
    have hlast : digit (z.toNat % 64) ≠ '=' := digit_ne_fill (by omega)
    rw [encodeChars, decodeChars, if_neg fun h => hlast h.2, decodeFull_digits, ih]
    rfl

/-- A full group is read as the bytes that are written so. -/
theorem encodeChars_of_decodeFull (h : decodeFull a b c d = some bytes) (rest : List UInt8) :
    encodeChars (bytes ++ rest) = a :: b :: c :: d :: encodeChars rest := by
  obtain ⟨p, hp, h⟩ := Option.bind_eq_some_iff.mp h
  obtain ⟨q, hq, h⟩ := Option.bind_eq_some_iff.mp h
  obtain ⟨r, hr, h⟩ := Option.bind_eq_some_iff.mp h
  obtain ⟨t, ht, h⟩ := Option.bind_eq_some_iff.mp h
  obtain rfl := Option.some.inj h
  obtain ⟨hp, rfl⟩ := digit_of_value? hp
  obtain ⟨hq, rfl⟩ := digit_of_value? hq
  obtain ⟨hr, rfl⟩ := digit_of_value? hr
  obtain ⟨ht, rfl⟩ := digit_of_value? ht
  simp only [List.cons_append, List.nil_append, encodeChars]
  rw [Utf8.toNat_toUInt8 (n := p * 4 + q / 16) (by omega),
    Utf8.toNat_toUInt8 (n := q % 16 * 16 + r / 4) (by omega),
    Utf8.toNat_toUInt8 (n := r % 4 * 64 + t) (by omega)]
  have h1 : (p * 4 + q / 16) / 4 = p := by omega
  have h2 : (p * 4 + q / 16) % 4 * 16 + (q % 16 * 16 + r / 4) / 16 = q := by omega
  have h3 : (q % 16 * 16 + r / 4) % 16 * 4 + (r % 4 * 64 + t) / 64 = r := by omega
  have h4 : (r % 4 * 64 + t) % 64 = t := by omega
  rw [h1, h2, h3, h4]

/-- So is the last group, where bits that are left over are zero. -/
theorem encodeChars_of_decodePadded (h : decodePadded a b c d = some bytes) :
    encodeChars bytes = [a, b, c, d] := by
  unfold decodePadded at h
  split at h
  · rename_i hd
    split at h
    · rename_i hc
      obtain ⟨p, hp, h⟩ := Option.bind_eq_some_iff.mp h
      obtain ⟨q, hq, h⟩ := Option.bind_eq_some_iff.mp h
      obtain ⟨hzero, h⟩ := Option.ite_none_right_eq_some.mp h
      obtain rfl := Option.some.inj h
      obtain ⟨hp, rfl⟩ := digit_of_value? hp
      obtain ⟨hq, rfl⟩ := digit_of_value? hq
      rw [encodeChars, Utf8.toNat_toUInt8 (n := p * 4 + q / 16) (by omega), hc, hd]
      have h1 : (p * 4 + q / 16) / 4 = p := by omega
      have h2 : (p * 4 + q / 16) % 4 * 16 = q := by omega
      rw [h1, h2]
    · obtain ⟨p, hp, h⟩ := Option.bind_eq_some_iff.mp h
      obtain ⟨q, hq, h⟩ := Option.bind_eq_some_iff.mp h
      obtain ⟨r, hr, h⟩ := Option.bind_eq_some_iff.mp h
      obtain ⟨hzero, h⟩ := Option.ite_none_right_eq_some.mp h
      obtain rfl := Option.some.inj h
      obtain ⟨hp, rfl⟩ := digit_of_value? hp
      obtain ⟨hq, rfl⟩ := digit_of_value? hq
      obtain ⟨hr, rfl⟩ := digit_of_value? hr
      rw [encodeChars, Utf8.toNat_toUInt8 (n := p * 4 + q / 16) (by omega),
        Utf8.toNat_toUInt8 (n := q % 16 * 16 + r / 4) (by omega), hd]
      have h1 : (p * 4 + q / 16) / 4 = p := by omega
      have h2 : (p * 4 + q / 16) % 4 * 16 + (q % 16 * 16 + r / 4) / 16 = q := by omega
      have h3 : (q % 16 * 16 + r / 4) % 16 * 4 = r := by omega
      rw [h1, h2, h3]
  · cases h

/-- Nothing is read but what was written. -/
theorem encodeChars_of_decodeChars (h : decodeChars cs = some bytes) : encodeChars bytes = cs := by
  induction cs using decodeChars.induct generalizing bytes with
  | case1 =>
    obtain rfl := Option.some.inj h
    rfl
  | case2 a b c d rest hlast =>
    rw [decodeChars, if_pos hlast] at h
    rw [hlast.1]
    exact encodeChars_of_decodePadded h
  | case3 a b c d rest hlast ih =>
    rw [decodeChars, if_neg hlast] at h
    obtain ⟨group, hgroup, h⟩ := Option.bind_eq_some_iff.mp h
    obtain ⟨more, hmore, h⟩ := Option.bind_eq_some_iff.mp h
    obtain rfl := Option.some.inj h
    rw [encodeChars_of_decodeFull hgroup, ih hmore]
  | case4 cs hnil hgroup =>
    rw [decodeChars.eq_3 cs hnil hgroup] at h
    cases h

theorem decode?_eq_some_iff : decode? s = some bytes ↔ s = encode bytes := by
  rw [decode?, encode]
  constructor
  · intro h
    rw [encodeChars_of_decodeChars h, String.ofList_toList]
  · rintro rfl
    rw [String.toList_ofList, decodeChars_encodeChars]

/-- Four signs are written for three bytes, and also for what is left of them. -/
theorem length_encode (bytes : List UInt8) : (encode bytes).length = (bytes.length + 2) / 3 * 4 := by
  rw [encode, String.length_ofList]
  induction bytes using encodeChars.induct with
  | case1 => rfl
  | case2 x => simp [encodeChars]
  | case3 x y => simp [encodeChars]
  | case4 x y z rest ih =>
    simp only [encodeChars, List.length_cons, ih]
    omega

/-- The padding is missing, is too early or leaves bits over, a blank follows, or a sign is no digit. -/
example : ["QUI", "Q=I=", "QR==", "QUFB ", "QU_B"].map decode? = [none, none, none, none, none] := by
  decide

end Base64

theorem decodeKey_encode (bytes : List UInt8) : decodeKey (Base64.encode bytes) = .ok bytes :=
  decodeKey_eq_ok.mpr (Base64.decode?_eq_some_iff.mpr rfl)

theorem decodeKey_eq_error {s : String} {e : Error} : decodeKey s = .error e ↔
    Base64.decode? s = none ∧ e = ⟨.malformedKey, "base64 decode failed", none⟩ := by
  unfold decodeKey
  split
  · rename_i hbytes
    exact iff_of_false nofun fun h => absurd (hbytes.symm.trans h.1) nofun
  · rename_i hnone
    rw [Except.error.injEq]
    exact ⟨fun h => ⟨hnone, h.symm⟩, fun h => h.2.symm⟩

namespace AccountKey

variable {key other : AccountKey} {s : String} {e : Error}

theorem encoded_eq_encode (key : AccountKey) : key.encoded = Base64.encode key.bytes :=
  Base64.decode?_eq_some_iff.mp key.decodes

theorem encoded_eq_iff : key.encoded = other.encoded ↔ key.bytes = other.bytes := by
  constructor
  · intro h
    rw [← Option.some_inj, ← key.decodes, ← other.decodes, h]
  · intro h
    rw [encoded_eq_encode, encoded_eq_encode, h]

/-- Every key is what its text is read as. -/
theorem ofText_eq_ok_iff : ofText s = .ok key ↔ key.encoded = s := by
  unfold ofText
  split
  · rename_i bytes hbytes
    rw [Except.ok.injEq]
    constructor
    · rintro rfl
      rfl
    · rintro rfl
      have hsame : bytes = key.bytes :=
        Option.some.inj ((decodeKey_eq_ok.mp hbytes).symm.trans key.decodes)
      subst hsame
      rfl
  · rename_i herror
    refine iff_of_false nofun ?_
    rintro rfl
    cases herror.symm.trans (decodeKey_eq_ok.mpr key.decodes)

theorem ofText_eq_error_iff : ofText s = .error e ↔
    Base64.decode? s = none ∧ e = ⟨.malformedKey, "base64 decode failed", none⟩ := by
  rw [← decodeKey_eq_error]
  unfold ofText
  split
  · rename_i hbytes
    exact iff_of_false nofun fun h => absurd (hbytes.symm.trans h) nofun
  · rename_i herror
    rw [herror, Except.error.injEq, Except.error.injEq]

/-- A text is kept, and what it stands for signs. -/
structure StandsFor (key : AccountKey) (s : String) (bytes : List UInt8) : Prop where
  encoded_eq : key.encoded = s
  bytes_eq : key.bytes = bytes
  sign_eq : ∀ text, key.sign text = Base64.encode (Hmac.tag bytes (Utf8.encode text))

theorem standsFor (key : AccountKey) : key.StandsFor key.encoded key.bytes := ⟨rfl, rfl, fun _ => rfl⟩

/-- A text is accepted as a key exactly if it is the written form of the bytes that sign, so that no other
text is a key with the same bytes. Whatever is no written form is malformed. -/
theorem standsFor_iff_encode :
    (∀ bytes, decodeKey (Base64.encode bytes) = .ok bytes ∧
        (Base64.encode bytes).length = (bytes.length + 2) / 3 * 4) ∧
      (∀ s bytes, (∃ key, ofText s = .ok key ∧ key.StandsFor s bytes) ↔ s = Base64.encode bytes) ∧
      (∀ s, (∃ e, ofText s = .error e ∧ e.kind = .malformedKey ∧ e.message = "base64 decode failed") ↔
        ∀ bytes, s ≠ Base64.encode bytes) ∧
      ∀ key other : AccountKey, key.encoded = other.encoded ↔ key.bytes = other.bytes := by
  refine ⟨fun bytes => ⟨decodeKey_encode bytes, Base64.length_encode bytes⟩, fun s bytes => ⟨?_, ?_⟩,
    fun s => ?_, fun _ _ => encoded_eq_iff⟩
  · rintro ⟨key, -, hkey⟩
    rw [← hkey.encoded_eq, ← hkey.bytes_eq]
    exact key.encoded_eq_encode
  · intro h
    let key : AccountKey := ⟨s, bytes, Base64.decode?_eq_some_iff.mpr h⟩
    exact ⟨key, ofText_eq_ok_iff.mpr rfl, key.standsFor⟩
  · have hunread : Base64.decode? s = none ↔ ∀ bytes, s ≠ Base64.encode bytes := by
      rw [Option.eq_none_iff_forall_ne_some]
      exact forall_congr' fun bytes => not_congr Base64.decode?_eq_some_iff
    rw [← hunread]
    constructor
    · rintro ⟨e, he, -⟩
      exact (ofText_eq_error_iff.mp he).1
    · intro h
      exact ⟨_, ofText_eq_error_iff.mpr ⟨h, rfl⟩, rfl, rfl⟩

end AccountKey

end StorageAccess
