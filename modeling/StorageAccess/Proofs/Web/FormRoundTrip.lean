import StorageAccess.Proofs.Text.Utf8RoundTrip
import StorageAccess.Web.Form

/-! Texts that are written into a query read back as themselves. There are two ways to write a byte;
both leave no separator in what they write, and that is all that the reader depends on. -/
namespace StorageAccess

theorem mem_toList_joinWith {separator : String} {texts : List String} {c : Char}
    (h : c ∈ (joinWith separator texts).toList) :
    c ∈ separator.toList ∨ ∃ s ∈ texts, c ∈ s.toList := by
  induction texts with
  | nil => simp [joinWith] at h
  | cons s rest ih =>
    by_cases hr : rest = []
    · subst hr
      exact .inr ⟨s, List.mem_cons_self, h⟩
    · rw [joinWith_cons hr, String.toList_append, String.toList_append] at h
      obtain h | h := List.mem_append.mp h
      · obtain h | h := List.mem_append.mp h
        · exact .inr ⟨s, List.mem_cons_self, h⟩
        · exact .inl h
      · obtain h | ⟨t, ht, h⟩ := ih h
        · exact .inl h
        · exact .inr ⟨t, List.mem_cons_of_mem _ ht, h⟩

namespace Percent

theorem value?_upperDigit {n : Nat} (h : n < 16) :
    Hex.value? (plain (Hex.upperDigit n).toNat.toUInt8) = some n := by
  have hall : ∀ n < 16, Hex.value? (plain (Hex.upperDigit n).toNat.toUInt8) = some n := by decide
  exact hall n h

/-- The digits and the first six capital letters of ASCII. -/
def IsUpperHex (c : Char) : Prop :=
  (0x30 ≤ c.toNat ∧ c.toNat ≤ 0x39) ∨ (0x41 ≤ c.toNat ∧ c.toNat ≤ 0x46)

instance (c : Char) : Decidable (IsUpperHex c) := by unfold IsUpperHex; infer_instance

theorem isUpperHex_upperDigit {n : Nat} (h : n < 16) : IsUpperHex (Hex.upperDigit n) := by
  have hall : ∀ n < 16, IsUpperHex (Hex.upperDigit n) := by decide
  exact hall n h

theorem IsUpperHex.lt {c : Char} (h : IsUpperHex c) : c.toNat < 0x80 := by
  unfold IsUpperHex at h
  omega

@[simp] theorem toNat_plain (b : UInt8) : (plain b).toNat = b.toNat := by
  have hb := b.toNat_lt
  have hv : b.toNat.isValidChar := Or.inl (by omega)
  rw [plain, Char.ofNat, dif_pos hv]
  rfl

theorem escapedByte?_escaped (b : UInt8) (rest : List UInt8) :
    escapedByte? 0x25 ((Hex.upperDigit (b.toNat / 16)).toNat.toUInt8
      :: (Hex.upperDigit (b.toNat % 16)).toNat.toUInt8 :: rest) = some b := by
  have hb := b.toNat_lt
  have hn : b.toNat / 16 * 16 + b.toNat % 16 = b.toNat := by omega
  simp only [escapedByte?, value?_upperDigit (n := b.toNat / 16) (by omega),
    value?_upperDigit (n := b.toNat % 16) (by omega), beq_self_eq_true, if_true]
  change some (b.toNat / 16 * 16 + b.toNat % 16).toUInt8 = some b
  rw [hn, Nat.toUInt8_eq, UInt8.ofNat_toNat]

theorem decodeAfter_cons_of_ne {b : UInt8} (rest : List UInt8) (h : b ≠ 0x25) :
    decodeAfter 0 (b :: rest) = b :: decodeAfter 0 rest := by
  have hb : escapedByte? b rest = none := by
    unfold escapedByte?
    split <;> simp [h]
  simp [decodeAfter, hb]

/-- An escaped byte is read as that byte, whatever follows it. -/
theorem decodeAfter_escaped (b : UInt8) (rest : List UInt8) :
    decodeAfter 0 (Utf8.encodeChars (escaped b) ++ rest) = b :: decodeAfter 0 rest := by
  have hb := b.toNat_lt
  have hh := Utf8.encodeChar_of_lt (isUpperHex_upperDigit (n := b.toNat / 16) (by omega)).lt
  have hl := Utf8.encodeChar_of_lt (isUpperHex_upperDigit (n := b.toNat % 16) (by omega)).lt
  have hp : Utf8.encodeChar '%' = [0x25] := rfl
  simp only [escaped, Utf8.encodeChars, List.flatMap_cons, List.flatMap_nil, hp, hh, hl,
    List.cons_append, List.nil_append, decodeAfter, escapedByte?_escaped]

theorem ne_of_isUnreserved {b : UInt8} (h : isUnreserved b = true) :
    b.toNat < 0x80 ∧ b ≠ 0x25 ∧ b ≠ 0x26 ∧ b ≠ 0x2B ∧ b ≠ 0x3D := by
  simp [isUnreserved, UInt8.le_iff_toNat_le, ← UInt8.toNat_inj] at h ⊢
  omega

end Percent

namespace Form

theorem ne_of_isPlain {b : UInt8} (h : isPlain b = true) :
    b.toNat < 0x80 ∧ b ≠ 0x25 ∧ b ≠ 0x26 ∧ b ≠ 0x2B ∧ b ≠ 0x3D := by
  simp [isPlain, UInt8.le_iff_toNat_le, ← UInt8.toNat_inj] at h ⊢
  omega

/-- A plus sign is read as a space. -/
def plusAsSpace (b : UInt8) : UInt8 := if b == 0x2B then 0x20 else b

/-- A way to write bytes that the reader undoes and that leaves the separators alone. -/
structure IsReadable (write : UInt8 → List Char) : Prop where
  separators : ∀ b, ∀ c ∈ write b, c ≠ '&' ∧ c ≠ '='
  read : ∀ b rest, Percent.decodeAfter 0 ((Utf8.encodeChars (write b)).map plusAsSpace ++ rest) =
    b :: Percent.decodeAfter 0 rest

theorem read_plain {b : UInt8} (hb : b.toNat < 0x80) (hp : b ≠ 0x25) (hs : b ≠ 0x2B)
    (rest : List UInt8) :
    Percent.decodeAfter 0 ((Utf8.encodeChars [Percent.plain b]).map plusAsSpace ++ rest) =
      b :: Percent.decodeAfter 0 rest := by
  have he : Utf8.encodeChars [Percent.plain b] = [b] := by
    simp [Utf8.encodeChars, Utf8.encodeChar_of_lt, hb]
  rw [he]
  simp [plusAsSpace, hs, Percent.decodeAfter_cons_of_ne rest hp]

theorem mem_escaped {b : UInt8} {c : Char} (h : c ∈ Percent.escaped b) :
    c = '%' ∨ Percent.IsUpperHex c := by
  have hb := b.toNat_lt
  simp only [Percent.escaped, List.mem_cons, List.not_mem_nil, or_false] at h
  obtain rfl | rfl | rfl := h
  · exact .inl rfl
  · exact .inr (Percent.isUpperHex_upperDigit (by omega))
  · exact .inr (Percent.isUpperHex_upperDigit (by omega))

theorem separators_escaped {b : UInt8} {c : Char} (h : c ∈ Percent.escaped b) :
    c ≠ '&' ∧ c ≠ '=' := by
  obtain rfl | hx := mem_escaped h
  · decide
  · constructor <;> rintro rfl <;> exact absurd hx (by decide)

theorem plain_ne {b : UInt8} {c : Char} (h : b ≠ c.toNat.toUInt8) : Percent.plain b ≠ c := by
  rintro rfl
  rw [Percent.toNat_plain, Nat.toUInt8_eq, UInt8.ofNat_toNat] at h
  exact h rfl

theorem read_escaped (b : UInt8) (rest : List UInt8) :
    Percent.decodeAfter 0 ((Utf8.encodeChars (Percent.escaped b)).map plusAsSpace ++ rest) =
      b :: Percent.decodeAfter 0 rest := by
  have hplus : (0x2B : UInt8) ∉ Utf8.encodeChars (Percent.escaped b) := by
    intro h
    obtain h | h := mem_escaped ((Utf8.mem_encodeChars_iff (c := '+') (by decide)).mp h)
    · exact absurd h (by decide)
    · exact absurd h (by decide)
  have hid : (Utf8.encodeChars (Percent.escaped b)).map plusAsSpace =
      Utf8.encodeChars (Percent.escaped b) := by
    refine (List.map_congr_left fun x hx => ?_).trans (List.map_id _)
    have hx' : x ≠ 0x2B := fun h => hplus (h ▸ hx)
    simp [plusAsSpace, hx']
  rw [hid, Percent.decodeAfter_escaped]

theorem isReadable_percent : IsReadable Percent.encodeByte where
  separators b c hc := by
    unfold Percent.encodeByte at hc
    split at hc
    · rename_i h
      obtain ⟨-, -, ha, -, he⟩ := Percent.ne_of_isUnreserved h
      rw [List.mem_singleton.mp hc]
      exact ⟨plain_ne (c := '&') ha, plain_ne (c := '=') he⟩
    · exact separators_escaped hc
  read b rest := by
    unfold Percent.encodeByte
    split
    · rename_i h
      obtain ⟨hb, hp, -, hs, -⟩ := Percent.ne_of_isUnreserved h
      exact read_plain hb hp hs rest
    · exact read_escaped b rest

theorem isReadable_form : IsReadable encodeByte where
  separators b c hc := by
    unfold encodeByte at hc
    split at hc
    · rename_i h
      obtain ⟨-, -, ha, -, he⟩ := ne_of_isPlain h
      rw [List.mem_singleton.mp hc]
      exact ⟨plain_ne (c := '&') ha, plain_ne (c := '=') he⟩
    · split at hc
      · rw [List.mem_singleton.mp hc]
        decide
      · exact separators_escaped hc
  read b rest := by
    unfold encodeByte
    split
    · rename_i h
      obtain ⟨hb, hp, -, hs, -⟩ := ne_of_isPlain h
      exact read_plain hb hp hs rest
    · split
      · rename_i h
        rw [beq_iff_eq.mp h]
        exact Percent.decodeAfter_cons_of_ne rest (by decide)
      · exact read_escaped b rest

/-- A text with each of its bytes written in the same way. -/
def written (write : UInt8 → List Char) (s : String) : String :=
  String.ofList ((Utf8.encode s).flatMap write)

variable {write : UInt8 → List Char}

theorem decode_flatMap (hw : IsReadable write) (bytes : List UInt8) :
    Percent.decode ((Utf8.encodeChars (bytes.flatMap write)).map plusAsSpace) = bytes := by
  induction bytes with
  | nil => rfl
  | cons b bs ih =>
    rw [List.flatMap_cons, Utf8.encodeChars_append, List.map_append]
    exact (hw.read b _).trans (congrArg (b :: ·) ih)

/-- What was written in either way is read as it was. -/
theorem decodeBytes_written (hw : IsReadable write) (s : String) :
    decodeBytes (Utf8.encode (written write s)) = s := by
  have he : Utf8.encode (written write s) = Utf8.encodeChars ((Utf8.encode s).flatMap write) := by
    simp [Utf8.encode, written]
  change Utf8.decodeLossy (Percent.decode ((Utf8.encode (written write s)).map plusAsSpace)) = s
  rw [he, decode_flatMap hw, Utf8.decodeLossy_encode]

theorem written_eq_empty_iff (hw : IsReadable write) {s : String} :
    written write s = "" ↔ s = "" := by
  constructor
  · intro h
    rw [← decodeBytes_written hw s, h]
    rfl
  · rintro rfl
    rfl

theorem separators_written (hw : IsReadable write) (s : String) :
    '&' ∉ (written write s).toList ∧ '=' ∉ (written write s).toList := by
  have h : ∀ c ∈ (written write s).toList, c ≠ '&' ∧ c ≠ '=' := by
    intro c hc
    rw [written, String.toList_ofList] at hc
    obtain ⟨b, -, hb⟩ := List.mem_flatMap.mp hc
    exact hw.separators b c hb
  exact ⟨fun hc => (h _ hc).1 rfl, fun hc => (h _ hc).2 rfl⟩

theorem byte_ne_of_not_mem {s : String} {c : Char} (hc : c.toNat < 0x80) (h : c ∉ s.toList) :
    ∀ b ∈ Utf8.encode s, b ≠ c.toNat.toUInt8 := by
  rintro b hb rfl
  exact h ((Utf8.mem_encodeChars_iff hc).mp hb)

theorem decodePair_append {key : String} (value : String) (h : '=' ∉ key.toList) :
    decodePair (Utf8.encode (key ++ "=" ++ value)) =
      (decodeBytes (Utf8.encode key), decodeBytes (Utf8.encode value)) := by
  have hk : ∀ b ∈ Utf8.encode key, (b != 0x3D) = true := by
    intro b hb
    exact bne_iff_ne.mpr (byte_ne_of_not_mem (c := '=') (by decide) h b hb)
  have he : Utf8.encode (key ++ "=" ++ value) =
      Utf8.encode key ++ 0x3D :: Utf8.encode value := by
    rw [Utf8.encode_append, Utf8.encode_append, List.append_assoc]
    rfl
  simp [decodePair, he, List.takeWhile_append_of_pos hk, List.dropWhile_append_of_pos hk]

theorem decodePair_of_name {key : String} (h : '=' ∉ key.toList) :
    decodePair (Utf8.encode key) = (decodeBytes (Utf8.encode key), "") := by
  have hk : ∀ b ∈ Utf8.encode key, (b != 0x3D) = true := by
    intro b hb
    exact bne_iff_ne.mpr (byte_ne_of_not_mem (c := '=') (by decide) h b hb)
  have ht : (Utf8.encode key ++ []).takeWhile (· != 0x3D) = Utf8.encode key ++ [] :=
    List.takeWhile_append_of_pos hk
  have hd : (Utf8.encode key ++ []).dropWhile (· != 0x3D) = [] := List.dropWhile_append_of_pos hk
  rw [List.append_nil] at ht hd
  rw [decodePair, ht, hd]
  rfl

theorem segments_of_forall {bytes : List UInt8} (h : ∀ b ∈ bytes, (b == 0x26) = false) :
    segments bytes = [bytes].filter (!·.isEmpty) := by
  rw [segments, List.splitOnP_eq_singleton h]

theorem segments_append {first : List UInt8} (h : ∀ b ∈ first, (b == 0x26) = false)
    (rest : List UInt8) :
    segments (first ++ 0x26 :: rest) = [first].filter (!·.isEmpty) ++ segments rest := by
  rw [segments, List.splitOnP_append_cons_of_forall_mem h _ (by decide), ← List.singleton_append,
    List.filter_append]
  rfl

theorem filter_encode (s : String) :
    [Utf8.encode s].filter (!·.isEmpty) = ([s].filter (· ≠ "")).map Utf8.encode := by
  by_cases hs : s = ""
  · subst hs
    rfl
  · have he : Utf8.encode s ≠ [] := mt Utf8.encode_eq_nil_iff.mp hs
    simp [hs, he]

/-- Texts without ampersands are told apart again, except for the empty ones, which are lost. -/
theorem segments_joinWith {texts : List String} (h : ∀ s ∈ texts, '&' ∉ s.toList) :
    segments (Utf8.encode (joinWith "&" texts)) = (texts.filter (· ≠ "")).map Utf8.encode := by
  induction texts with
  | nil => rfl
  | cons s rest ih =>
    have hs : ∀ b ∈ Utf8.encode s, (b == 0x26) = false := by
      intro b hb
      exact beq_eq_false_iff_ne.mpr
        (byte_ne_of_not_mem (c := '&') (by decide) (h s List.mem_cons_self) b hb)
    cases rest with
    | nil => rw [joinWith, segments_of_forall hs, filter_encode]
    | cons t ts =>
      have hrest := ih fun u hu => h u (List.mem_cons_of_mem _ hu)
      have he : Utf8.encode (joinWith "&" (s :: t :: ts)) =
          Utf8.encode s ++ 0x26 :: Utf8.encode (joinWith "&" (t :: ts)) := by
        rw [joinWith_cons (List.cons_ne_nil _ _), Utf8.encode_append, Utf8.encode_append,
          List.append_assoc]
        rfl
      rw [he, segments_append hs, hrest, filter_encode, ← List.map_append, ← List.filter_append,
        List.singleton_append]

theorem decode_joinWith {texts : List String} (h : ∀ s ∈ texts, '&' ∉ s.toList) :
    decode (joinWith "&" texts) =
      (texts.filter (· ≠ "")).map fun s => decodePair (Utf8.encode s) := by
  rw [decode, segments_joinWith h, List.map_map]
  rfl

theorem questionMark_not_mem_encodeText (s : String) : '?' ∉ (encodeText s).toList := by
  rw [encodeText, String.toList_ofList]
  intro h
  obtain ⟨b, -, hb⟩ := List.mem_flatMap.mp h
  unfold encodeByte at hb
  split at hb
  · rename_i hp
    have hne : b ≠ 0x3F := by
      rintro rfl
      exact absurd hp (by decide)
    exact plain_ne (c := '?') hne (List.mem_singleton.mp hb).symm
  · split at hb
    · exact absurd (List.mem_singleton.mp hb) (by decide)
    · obtain h | h := mem_escaped hb
      · exact absurd h (by decide)
      · exact absurd h (by decide)

theorem questionMark_not_mem_encode (pairs : List (String × String)) :
    '?' ∉ (encode pairs).toList := by
  intro h
  obtain h | ⟨s, hs, h⟩ := mem_toList_joinWith h
  · exact absurd h (by decide)
  · obtain ⟨p, -, rfl⟩ := List.mem_map.mp hs
    simp only [encodePair, String.toList_append, List.mem_append] at h
    obtain (h | h) | h := h
    · exact questionMark_not_mem_encodeText _ h
    · exact absurd h (by decide)
    · exact questionMark_not_mem_encodeText _ h

/-- Reading a form gives the pairs that were written into it. -/
theorem decode_encode (pairs : List (String × String)) : decode (encode pairs) = pairs := by
  have hne : ∀ s ∈ pairs.map encodePair, decide (s ≠ "") = true := by
    intro s hs
    obtain ⟨p, -, rfl⟩ := List.mem_map.mp hs
    rw [decide_eq_true_eq]
    intro h
    have hl := congrArg String.length h
    simp [encodePair] at hl
  have hamp : ∀ s ∈ pairs.map encodePair, '&' ∉ s.toList := by
    intro s hs
    obtain ⟨p, -, rfl⟩ := List.mem_map.mp hs
    simp only [encodePair, String.toList_append, List.mem_append, not_or]
    exact ⟨⟨(separators_written isReadable_form p.1).1, by decide⟩,
      (separators_written isReadable_form p.2).1⟩
  have hpair : ∀ p : String × String, decodePair (Utf8.encode (encodePair p)) = p := by
    intro p
    refine (decodePair_append _ (separators_written isReadable_form p.1).2).trans ?_
    exact Prod.ext (decodeBytes_written isReadable_form p.1) (decodeBytes_written isReadable_form p.2)
  rw [encode, decode_joinWith hamp, List.filter_eq_self.mpr hne, List.map_map]
  exact (List.map_congr_left fun p _ => hpair p).trans (List.map_id _)

end Form
end StorageAccess
