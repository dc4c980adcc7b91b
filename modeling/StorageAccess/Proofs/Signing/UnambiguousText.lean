import StorageAccess.Proofs.Outcome
import StorageAccess.Proofs.Signing.IncidentalOrder
import StorageAccess.Proofs.Text.Lines

/-! What a signature under an account key stands for. The signed text has twelve lines, then a line for
each service header, then the resource. Nothing in a header ends a line, the name of a service header ends
at the first colon, and no name begins like the resource, so the text tells where each part ends. -/
namespace StorageAccess

theorem IsToken.not_mem {s : String} (h : IsToken s) {c : Char} (hc : isTokenChar c = false) :
    c ∉ s.toList := fun hm => by
  have ht := List.all_eq_true.mp h.2 c hm
  rw [hc] at ht
  cases ht

theorem Method.text_injective {m n : Method} (h : m.text = n.text) : m = n := by
  cases m
  cases n
  cases h
  rfl

/-- Of what is readable, nothing ends a line. -/
theorem HeaderValue.isLine_shown {v : HeaderValue} (h : v.isReadable = true) : IsLine v.shown := by
  rw [IsLine, shown, String.toList_ofList, List.mem_map]
  rintro ⟨b, hm, hb⟩
  have hr : isReadableByte b = true := List.all_eq_true.mp h b hm
  simp only [isReadableByte, Bool.or_eq_true, Bool.and_eq_true, decide_eq_true_eq, beq_iff_eq,
    UInt8.le_iff_toNat_le] at hr
  obtain ⟨hle, -⟩ | rfl := hr
  · exact Lowercase.ofNat_ne_newline (Nat.lt_of_lt_of_le (by decide) hle) hb
  · exact absurd hb (by decide)

namespace Draft

variable {d e : Draft}

/-- The first value of a header as characters, or an empty text. -/
def firstShown (d : Draft) (name : HeaderName) : String :=
  match d.headers.get? name with
  | some value => value.shown
  | none => ""

theorem headerText_eq_ok {name : HeaderName} {text : String} (h : d.headerText name = .ok text) :
    text = d.firstShown name ∧ IsLine (d.firstShown name) := by
  rw [headerText] at h
  rw [firstShown]
  cases hv : d.headers.get? name with
  | none =>
    rw [hv] at h
    cases h
    exact ⟨rfl, by decide⟩
  | some v =>
    rw [hv] at h
    dsimp only at h
    rw [HeaderValue.text_eq_ite] at h
    split at h
    · rename_i hr
      cases h
      exact ⟨rfl, HeaderValue.isLine_shown hr⟩
    · cases h

/-- What is signed of a service header: its name begins as those of all others do and ends at a colon, and
its values are on one line. -/
structure IsServiceField (f : String × String) : Prop where
  begins : f.1.toList.head? = some 'x'
  name : ':' ∉ f.1.toList
  values : IsLine f.2

theorem isServiceField_shownField {name : HeaderName}
    (hn : "x-ms-".toList.isPrefixOf name.text.toList = true) (hr : d.isReadableField name = true) :
    IsServiceField (d.shownField name) where
  begins := by
    obtain ⟨rest, hrest⟩ := List.isPrefixOf_iff_prefix.mp hn
    change name.text.toList.head? = some 'x'
    rw [← hrest]
    rfl
  name := name.valid.1.not_mem (by decide)
  values := by
    refine isLine_joinWith (by decide) fun s hs => ?_
    obtain ⟨v, hv, rfl⟩ := List.mem_map.mp hs
    exact HeaderValue.isLine_shown (List.all_eq_true.mp hr v hv)

/-- The service headers are sorted, and what is signed of them is unambiguous. -/
theorem headersWithPrefix_eq_ok {fields : List (String × String)}
    (h : d.headersWithPrefix "x-ms-" = .ok fields) :
    fields.mergeSort pairLe = fields ∧ ∀ f ∈ fields, IsServiceField f := by
  rw [headersWithPrefix_eq_ite] at h
  split at h
  · rename_i hr
    cases h
    have hperm := List.mergeSort_perm ((d.namesWithPrefix "x-ms-").map d.shownField) pairLe
    refine ⟨mergeSort_pairLe_of_perm hperm, fun f hf => ?_⟩
    obtain ⟨name, hn, rfl⟩ := List.mem_map.mp (hperm.mem_iff.mp hf)
    exact isServiceField_shownField (List.mem_filter.mp hn).2 (List.all_eq_true.mp hr name hn)
  · cases h

end Draft

namespace SharedKeyScheme

variable {d e : Draft} {account other : String}

/-- The line of a service header, with its end. -/
def fieldChars (f : String × String) : List Char := f.1.toList ++ ':' :: (f.2.toList ++ ['\n'])

theorem serviceHeaders_eq_ok {headers : String} (h : serviceHeaders d = .ok headers) :
    ∃ fields, d.headersWithPrefix "x-ms-" = .ok fields ∧
      headers.toList = fields.flatMap fieldChars := by
  obtain ⟨fields, hfields, h⟩ := bind_eq_ok.mp h
  refine ⟨fields, hfields, ?_⟩
  cases hempty : fields.isEmpty with
  | true =>
    rw [List.isEmpty_iff.mp hempty] at h ⊢
    cases h
    rfl
  | false =>
    have hend : "\n".toList = ['\n'] := rfl
    rw [hempty] at h
    cases h
    rw [Draft.fieldLines, (Draft.headersWithPrefix_eq_ok hfields).1,
      toList_joinWith_append hend (by simpa using hempty), List.flatMap_map]
    simp only [String.toList_append, List.append_assoc]
    rfl

/-- Where the lines of service headers end and a resource begins can be told. -/
theorem fieldChars_append_inj {fields more : List (String × String)} {x y : List Char}
    (hf : ∀ f ∈ fields, Draft.IsServiceField f) (hm : ∀ f ∈ more, Draft.IsServiceField f)
    (h : fields.flatMap fieldChars ++ '/' :: x = more.flatMap fieldChars ++ '/' :: y) :
    fields = more ∧ x = y := by
  have hslash : ∀ {f : String × String} {z : List Char}, Draft.IsServiceField f →
      (fieldChars f ++ z).head? ≠ some '/' := by
    intro f z hfield hhead
    rw [fieldChars, List.append_assoc, List.head?_append, hfield.begins, Option.some_or] at hhead
    exact absurd hhead (by decide)
  -- a line on one side is matched by a line on the other, never by the resource, which begins otherwise
  induction fields generalizing more with
  | nil =>
    cases more with
    | nil => exact ⟨rfl, (List.cons.inj h).2⟩
    | cons g more =>
      rw [List.flatMap_cons, List.append_assoc] at h
      exact absurd (congrArg List.head? h).symm (hslash (hm g List.mem_cons_self))
  | cons f fields ih =>
    have hfield := hf f List.mem_cons_self
    cases more with
    | nil =>
      rw [List.flatMap_cons, List.append_assoc] at h
      exact absurd (congrArg List.head? h) (hslash hfield)
    | cons g more =>
      have hother := hm g List.mem_cons_self
      simp only [List.flatMap_cons, fieldChars, List.append_assoc, List.cons_append,
        List.nil_append] at h
      obtain ⟨hname, h⟩ := append_cons_inj_of_not_mem hfield.name hother.name h
      obtain ⟨hvalues, h⟩ := append_cons_inj_of_not_mem hfield.values hother.values h
      obtain ⟨rfl, hxy⟩ := ih (fun u hu => hf u (List.mem_cons_of_mem f hu))
        (fun u hu => hm u (List.mem_cons_of_mem g hu)) h
      rw [Prod.ext (String.toList_inj.mp hname) (String.toList_inj.mp hvalues)]
      exact ⟨rfl, hxy⟩

theorem exists_fullResource (d : Draft) (account : String) :
    ∃ rest, (fullResource d account).toList = '/' :: rest := by
  rw [fullResource, resourcePath, String.append_assoc, String.append_assoc, String.toList_append]
  exact ⟨_, rfl⟩

theorem isLine_contentLengthLine {length : String} (h : contentLengthLine d = .ok length) :
    IsLine length := by
  obtain ⟨first, hfirst, h⟩ := bind_eq_ok.mp h
  obtain ⟨rfl, hline⟩ := Draft.headerText_eq_ok hfirst
  split at h
  · cases h
    exact hline
  · obtain ⟨version, -, h⟩ := bind_eq_ok.mp h
    generalize hdated : (if version = "" then signingVersion else version) = dated at h
    dsimp only at h
    split at h
    · cases h
      decide
    · cases h
      exact hline

/-- The headers with lines of their own before the length of the content. -/
def frontNames : List HeaderName := [.contentEncoding, .contentLanguage]

/-- The headers with lines of their own after it. -/
def backNames : List HeaderName :=
  [.contentMd5, .contentType, .date, .ifModifiedSince, .ifMatch, .ifNoneMatch, .ifUnmodifiedSince,
    .range]

def lineNames : List HeaderName := frontNames ++ backNames

/-- The lines before the service headers. -/
def leadingLines (d : Draft) (length : String) : List String :=
  d.method.text :: (frontNames.map d.firstShown ++ length :: backNames.map d.firstShown)

/-- What a signed text is made of. -/
structure IsFullText (d : Draft) (account s length headers : String) : Prop where
  length_eq : contentLengthLine d = .ok length
  texts_eq : ∀ name ∈ lineNames, d.headerText name = .ok (d.firstShown name)
  headers_eq : serviceHeaders d = .ok headers
  text_eq : s = joinWith "\n" (leadingLines d length ++ [headers ++ fullResource d account])

theorem isFullText_of_ok {s : String} (h : fullText d account = .ok s) :
    ∃ length headers, IsFullText d account s length headers := by
  simp only [fullText, bind_eq_ok, pure_eq_ok] at h
  obtain ⟨encoding, hencoding, language, hlanguage, length, hlength, md5, hmd5, type, htype, date,
    hdate, modifiedSince, hmodifiedSince, isMatch, hisMatch, noneMatch, hnoneMatch, unmodifiedSince,
    hunmodifiedSince, range, hrange, headers, hheaders, rfl⟩ := h
  obtain ⟨rfl, -⟩ := Draft.headerText_eq_ok hencoding
  obtain ⟨rfl, -⟩ := Draft.headerText_eq_ok hlanguage
  obtain ⟨rfl, -⟩ := Draft.headerText_eq_ok hmd5
  obtain ⟨rfl, -⟩ := Draft.headerText_eq_ok htype
  obtain ⟨rfl, -⟩ := Draft.headerText_eq_ok hdate
  obtain ⟨rfl, -⟩ := Draft.headerText_eq_ok hmodifiedSince
  obtain ⟨rfl, -⟩ := Draft.headerText_eq_ok hisMatch
  obtain ⟨rfl, -⟩ := Draft.headerText_eq_ok hnoneMatch
  obtain ⟨rfl, -⟩ := Draft.headerText_eq_ok hunmodifiedSince
  obtain ⟨rfl, -⟩ := Draft.headerText_eq_ok hrange
  refine ⟨length, headers, hlength, ?_, hheaders, rfl⟩
  simp only [lineNames, frontNames, backNames, List.cons_append, List.nil_append,
    List.forall_mem_cons, List.not_mem_nil, false_implies, implies_true, and_true]
  exact ⟨hencoding, hlanguage, hmd5, htype, hdate, hmodifiedSince, hisMatch, hnoneMatch,
    hunmodifiedSince, hrange⟩

theorem isLine_leadingLines {s length headers : String}
    (h : IsFullText d account s length headers) : ∀ line ∈ leadingLines d length, IsLine line := by
  have hfirst : ∀ name ∈ lineNames, IsLine (d.firstShown name) := fun name hn =>
    (Draft.headerText_eq_ok (h.texts_eq name hn)).2
  intro line hm
  rw [leadingLines, List.mem_cons, List.mem_append, List.mem_cons, List.mem_map, List.mem_map] at hm
  obtain rfl | ⟨name, hn, rfl⟩ | rfl | ⟨name, hn, rfl⟩ := hm
  · exact d.method.isToken.not_mem (by decide)
  · exact hfirst name (List.mem_append_left _ hn)
  · exact isLine_contentLengthLine h.length_eq
  · exact hfirst name (List.mem_append_right _ hn)

theorem eq_of_leadingLines {length extent : String}
    (h : leadingLines d length = leadingLines e extent) :
    d.method = e.method ∧ length = extent ∧
      ∀ name ∈ lineNames, d.firstShown name = e.firstShown name := by
  obtain ⟨hmethod, h⟩ := List.cons.inj h
  obtain ⟨hfront, h⟩ := List.append_inj h rfl
  obtain ⟨hlength, hback⟩ := List.cons.inj h
  refine ⟨Method.text_injective hmethod, hlength, fun name hn => ?_⟩
  obtain hn | hn := List.mem_append.mp hn
  · exact List.map_inj_left.mp hfront name hn
  · exact List.map_inj_left.mp hback name hn

/-- What two drafts have in common if the same text is signed for both. -/
structure AreSignedAlike (d e : Draft) (account other : String) : Prop where
  method : d.method = e.method
  length : ∃ length, contentLengthLine d = .ok length ∧ contentLengthLine e = .ok length
  texts : ∀ name ∈ lineNames, ∃ text, d.headerText name = .ok text ∧ e.headerText name = .ok text
  fields : ∃ fields, d.headersWithPrefix "x-ms-" = .ok fields ∧
    e.headersWithPrefix "x-ms-" = .ok fields
  resource : fullResource d account = fullResource e other

/-- The text that is signed for a draft and an account tells the method, every header that is signed, and
the resource. -/
theorem areSignedAlike_of_stringToSign {s : String} (hd : stringToSign .full d account = .ok s)
    (he : stringToSign .full e other = .ok s) : AreSignedAlike d e account other := by
  obtain ⟨length, headers, h⟩ := isFullText_of_ok hd
  obtain ⟨extent, more, k⟩ := isFullText_of_ok he
  have hnewline : "\n".toList = ['\n'] := rfl
  obtain ⟨hlines, hlast⟩ := joinWith_append_inj hnewline (isLine_leadingLines h)
    (isLine_leadingLines k) rfl (h.text_eq.symm.trans k.text_eq)
  obtain ⟨hmethod, rfl, htexts⟩ := eq_of_leadingLines hlines
  obtain ⟨fields, hfields, hheaders⟩ := serviceHeaders_eq_ok h.headers_eq
  obtain ⟨others, hothers, hmore⟩ := serviceHeaders_eq_ok k.headers_eq
  obtain ⟨x, hx⟩ := exists_fullResource d account
  obtain ⟨y, hy⟩ := exists_fullResource e other
  rw [← String.toList_inj, String.toList_append, String.toList_append, hheaders, hmore, hx, hy] at hlast
  obtain ⟨rfl, rfl⟩ := fieldChars_append_inj (Draft.headersWithPrefix_eq_ok hfields).2
    (Draft.headersWithPrefix_eq_ok hothers).2 hlast
  exact {
    method := hmethod
    length := ⟨length, h.length_eq, k.length_eq⟩
    texts := fun name hn => ⟨d.firstShown name, h.texts_eq name hn,
      (k.texts_eq name hn).trans (congrArg Except.ok (htexts name hn).symm)⟩
    fields := ⟨fields, hfields, hothers⟩
    resource := String.toList_inj.mp (hx.trans hy.symm) }

/-- A resource with a pair in its query. -/
def queryDraft : Draft where
  method := orderedDraft.method
  scheme := .http
  authority := orderedDraft.authority
  path := "/c"
  query := [("x", "/1")]
  headers := ((Headers.empty.append metaHeader digitZero).append metaHeader digitThree).append
    .contentLength digitZero

/-- The same resource, with the line of the pair in the name of the account. -/
def splitDraft : Draft where
  method := orderedDraft.method
  scheme := .http
  authority := orderedDraft.authority
  path := "/1"
  query := []
  headers := (Headers.empty.append metaHeader digitZero).append metaHeader digitThree

theorem areSignedAlike_splitDraft :
    queryDraft ≠ splitDraft ∧ AreSignedAlike queryDraft splitDraft "a" "a/c\nx:" := by
  have hquery : stringToSign .full queryDraft "a" = .ok
      "PUT\n\n\n\n\n\n\n\n\n\n\n\nx-ms-meta-a:0,3\n/a/c\nx:/1" :=
    eq_ok_of_toOption (by decide +kernel)
  have hsplit : stringToSign .full splitDraft "a/c\nx:" = .ok
      "PUT\n\n\n\n\n\n\n\n\n\n\n\nx-ms-meta-a:0,3\n/a/c\nx:/1" :=
    eq_ok_of_toOption (by decide +kernel)
  exact ⟨by decide +kernel, areSignedAlike_of_stringToSign hquery hsplit⟩

end SharedKeyScheme

end StorageAccess
