import StorageAccess.Proofs.Web.FormRoundTrip
import StorageAccess.Signing.Authorizer

/-! The address that a draft is put back into is read as the draft it came from, except for pairs
without name and value, which leave nothing behind. -/
namespace StorageAccess

namespace PathAndQuery

theorem ext {a b : PathAndQuery} (hp : a.path = b.path) (hq : a.query = b.query) : a = b := by
  cases a
  cases b
  simp_all

theorem endsPath_of_isPathChar {c : Char} (h : isPathChar c = true) : (!endsPath c) = true := by
  have hq : c ≠ '?' := by rintro rfl; exact absurd h (by decide)
  have hs : c ≠ '#' := by rintro rfl; exact absurd h (by decide)
  simp [endsPath, hq, hs]

theorem ofText_path {path : String} (hp : IsPath path.toList) (hne : path ≠ "") :
    ∃ t, ofText path = .ok t ∧ t.path = path ∧ t.query = none := by
  have he : ∀ c ∈ path.toList, (!endsPath c) = true := fun c hc =>
    endsPath_of_isPathChar (List.all_eq_true.mp hp.2 c hc)
  have ht : (path.toList ++ []).takeWhile (!endsPath ·) = path.toList ++ [] :=
    List.takeWhile_append_of_pos he
  have hd : (path.toList ++ []).dropWhile (!endsPath ·) = [] := List.dropWhile_append_of_pos he
  rw [List.append_nil] at ht hd
  rw [ofText, if_neg hne, ofChars]
  by_cases hstar : path.toList = ['*']
  · refine ⟨star, by simp [hstar], ?_, rfl⟩
    rw [← String.toList_inj, hstar]
    rfl
  · have hlead : ¬(path.toList ≠ [] ∧ path.toList.head? ≠ some '/') := by
      rintro ⟨h1, h2⟩
      obtain h | h | h := hp.1
      · exact h1 h
      · exact hstar h
      · exact h2 h
    simp only [ht, hd, if_neg hstar, dif_neg hlead, dif_pos hp]
    exact ⟨_, rfl, by simp, rfl⟩

/-- A text up to its first number sign, where the query of an address ends. -/
def withoutFragment (s : String) : String := String.ofList (s.toList.takeWhile (· != '#'))

theorem withoutFragment_append {s t : String} (h : '#' ∉ s.toList) :
    withoutFragment (s ++ t) = s ++ withoutFragment t := by
  have hs : ∀ c ∈ s.toList, (c != '#') = true := fun c hc => bne_iff_ne.mpr fun he => h (he ▸ hc)
  rw [← String.toList_inj, withoutFragment, withoutFragment, String.toList_ofList,
    String.toList_append, String.toList_append, String.toList_ofList,
    List.takeWhile_append_of_pos hs]

theorem numberSign_not_mem_withoutFragment (s : String) : '#' ∉ (withoutFragment s).toList := by
  rw [withoutFragment, String.toList_ofList]
  intro h
  exact absurd (List.all_eq_true.mp List.all_takeWhile _ h) (by decide)

theorem withoutFragment_eq_self_iff {s : String} : withoutFragment s = s ↔ '#' ∉ s.toList := by
  constructor
  · intro h
    rw [← h]
    exact numberSign_not_mem_withoutFragment s
  · intro h
    have hs := @withoutFragment_append s "" h
    rwa [String.append_empty, show withoutFragment "" = "" from rfl, String.append_empty] at hs

/-- An asterisk is a path only where nothing comes after it. -/
theorem ofText_star (query : String) :
    ofText ("*" ++ "?" ++ query) = .error .noLeadingSlash := by
  have hl : ("*" ++ "?" ++ query).toList = '*' :: '?' :: query.toList := by simp
  have hne : "*" ++ "?" ++ query ≠ "" := by
    intro h
    have hh := congrArg String.toList h
    simp at hh
  rw [ofText, if_neg hne, hl, ofChars]
  simp [endsPath]

/-- What comes after a path and a question mark is the query, up to a number sign. -/
theorem ofText_append_eq_ok {path rest : String} {t : PathAndQuery} (hp : IsPath path.toList) :
    ofText (path ++ "?" ++ rest) = .ok t ↔
      path ≠ "*" ∧ (withoutFragment rest).toList.all isQueryChar = true ∧ t.path = path ∧
        t.query = some (withoutFragment rest) := by
  by_cases hstar : path = "*"
  · rw [hstar, ofText_star]
    exact ⟨nofun, fun h => absurd rfl h.1⟩
  have he : ∀ c ∈ path.toList, (!endsPath c) = true := fun c hc =>
    endsPath_of_isPathChar (List.all_eq_true.mp hp.2 c hc)
  have hl : (path ++ "?" ++ rest).toList = path.toList ++ '?' :: rest.toList := by simp
  have ht : (path.toList ++ '?' :: rest.toList).takeWhile (!endsPath ·) = path.toList ++ [] :=
    List.takeWhile_append_of_pos he
  have hd : (path.toList ++ '?' :: rest.toList).dropWhile (!endsPath ·) = '?' :: rest.toList :=
    List.dropWhile_append_of_pos he
  have hw : rest.toList.takeWhile (· != '#') = (withoutFragment rest).toList := by
    rw [withoutFragment, String.toList_ofList]
  rw [List.append_nil] at ht
  have hne : path ++ "?" ++ rest ≠ "" := by
    intro h
    have hh := congrArg String.toList h
    simp [hl] at hh
  have halone : path.toList ++ '?' :: rest.toList ≠ ['*'] := by
    cases path.toList <;> simp
  have hlead : ¬(path.toList ≠ [] ∧ path.toList.head? ≠ some '/') := by
    rintro ⟨hnil, hhead⟩
    obtain h | h | h := hp.1
    · exact hnil h
    · exact hstar (String.toList_inj.mp h)
    · exact hhead h
  rw [ofText, if_neg hne, hl, ofChars]
  simp only [ht, hd, hw, if_neg halone, dif_neg hlead, dif_pos hp]
  by_cases hq : (withoutFragment rest).toList.all isQueryChar = true
  · rw [dif_pos hq]
    constructor
    · intro h
      cases h
      exact ⟨hstar, hq, by simp, by simp⟩
    · rintro ⟨-, -, hpath, hquery⟩
      exact congrArg Except.ok (ext (by simp [hpath]) (by simp [hquery]))
  · rw [dif_neg hq]
    exact ⟨nofun, fun h => absurd h.2.1 hq⟩

theorem ofText_append {path query : String} (hp : IsPath path.toList)
    (hs : path.toList.head? = some '/') (hq : query.toList.all isQueryChar = true) :
    ∃ t, ofText (path ++ "?" ++ query) = .ok t ∧ t.path = path ∧ t.query = some query := by
  have hstar : path ≠ "*" := by
    rintro rfl
    cases hs
  have hall : withoutFragment query = query := withoutFragment_eq_self_iff.mpr fun hm =>
    absurd (List.all_eq_true.mp hq _ hm) (by decide)
  refine ⟨⟨path, some query, hp, by simpa using hq, fun h => absurd h hstar⟩, ?_, rfl, rfl⟩
  exact (ofText_append_eq_ok hp).mpr ⟨hstar, hall.symm ▸ hq, rfl, by rw [hall]⟩

end PathAndQuery

/-- What is lost with the empty pairs is nothing if there are none. -/
theorem filter_pairs_eq_self_iff {pairs : List (String × String)} :
    pairs.filter (· ≠ ("", "")) = pairs ↔ ("", "") ∉ pairs := by
  rw [List.filter_eq_self]
  constructor
  · intro hall hm
    exact of_decide_eq_true (hall _ hm) rfl
  · intro hnot p hm
    refine decide_eq_true ?_
    rintro rfl
    exact hnot hm

/-- The pairs in the query of a request. -/
def RequestHead.pairs (head : RequestHead) : List (String × String) :=
  ((head.uri.target?.bind PathAndQuery.query).map Form.decode).getD []

/-- The path, or a slash where there is none. -/
def RequestHead.path (head : RequestHead) : String := (head.uri.target?.getD .slash).shownPath

namespace Draft

/-- A request can be taken apart if there is a server in its address. -/
theorem ofHead_eq_ok {head : RequestHead} {d : Draft} : ofHead head = .ok d ↔
    ∃ authority, head.uri.authority? = some authority ∧
      d = ⟨head.method, head.uri.scheme?.getD .http, authority, head.path, head.pairs,
        head.headers⟩ := by
  have hpairs : ((head.uri.target?.getD .slash).query.map Form.decode).getD [] = head.pairs := by
    unfold RequestHead.pairs
    cases head.uri.target? <;> rfl
  unfold ofHead
  cases head.uri.authority? with
  | none => simp
  | some authority =>
    simp only [Except.ok.injEq, Option.some.injEq, exists_eq_left', hpairs]
    exact eq_comm

theorem query_of_ofHead {head : RequestHead} {d : Draft} (h : ofHead head = .ok d) :
    d.query = head.pairs := by
  obtain ⟨authority, -, rfl⟩ := ofHead_eq_ok.mp h
  rfl

/-- What the path of a draft is like: it can stand in an address, and an asterisk stands alone. -/
structure IsAddressable (d : Draft) : Prop where
  path : IsPath d.path.toList
  path_ne : d.path ≠ ""
  query_of_star : d.path = "*" → d.query = []

theorem head?_of_isPath {path : String} (hp : IsPath path.toList) (hne : path ≠ "")
    (hstar : path ≠ "*") : path.toList.head? = some '/' := by
  obtain h | h | h := hp.1
  · exact absurd (String.toList_inj.mp h) hne
  · exact absurd (String.toList_inj.mp h) hstar
  · exact h

theorem isAddressable_of_ofHead {head : RequestHead} {d : Draft} (h : ofHead head = .ok d) :
    d.IsAddressable := by
  unfold ofHead at h
  split at h
  · cases h
  · cases h
    generalize head.uri.target?.getD .slash = t
    by_cases hp : t.path = ""
    · refine ⟨?_, ?_, ?_⟩ <;> simp [PathAndQuery.shownPath, hp]
      decide
    · refine ⟨?_, ?_, ?_⟩ <;> simp only [PathAndQuery.shownPath, if_neg hp]
      · exact t.validPath
      · exact hp
      · intro hs
        rw [t.starAlone hs]
        rfl

theorem isQueryChar_of_mem_encode {s : String} {c : Char} (h : c ∈ (Percent.encode s).toList) :
    isQueryChar c = true ∧ c ≠ '?' := by
  rw [Percent.encode, String.toList_ofList] at h
  obtain ⟨b, -, hb⟩ := List.mem_flatMap.mp h
  unfold Percent.encodeByte at hb
  split at hb
  · rename_i hu
    have hmark : b ≠ 0x3F := by
      rintro rfl
      exact absurd hu (by decide)
    simp [Percent.isUnreserved, UInt8.le_iff_toNat_le, ← UInt8.toNat_inj] at hu
    rw [List.mem_singleton.mp hb]
    refine ⟨?_, Form.plain_ne (c := '?') hmark⟩
    simp [isQueryChar]
    omega
  · obtain rfl | hx := Form.mem_escaped hb
    · decide
    · constructor
      · unfold Percent.IsUpperHex at hx
        simp [isQueryChar]
        omega
      · rintro rfl
        exact absurd hx (by decide)

theorem isQueryChar_of_mem_writePair {p : String × String} {c : Char}
    (h : c ∈ (writePair (Authorizer.encodePair p)).toList) : isQueryChar c = true ∧ c ≠ '?' := by
  unfold writePair at h
  split at h
  · exact isQueryChar_of_mem_encode h
  · rw [String.toList_append, String.toList_append] at h
    obtain h | h := List.mem_append.mp h
    · obtain h | h := List.mem_append.mp h
      · exact isQueryChar_of_mem_encode h
      · rw [List.mem_singleton.mp h]
        decide
    · exact isQueryChar_of_mem_encode h

theorem written_percent (s : String) : Form.written Percent.encodeByte s = Percent.encode s := rfl

/-- A pair is written as nothing only if there is nothing in it, and is read as it was. -/
theorem writePair_encodePair (p : String × String) :
    (writePair (Authorizer.encodePair p) = "" ↔ p = ("", "")) ∧
      '&' ∉ (writePair (Authorizer.encodePair p)).toList ∧
      Form.decodePair (Utf8.encode (writePair (Authorizer.encodePair p))) = p := by
  obtain ⟨key, value⟩ := p
  have hw := Form.isReadable_percent
  have hk := Form.separators_written hw key
  have hv := Form.separators_written hw value
  have hkey := Form.decodeBytes_written hw key
  have hvalue := Form.decodeBytes_written hw value
  simp only [written_percent] at hk hv hkey hvalue
  have hke : Percent.encode key = "" ↔ key = "" := Form.written_eq_empty_iff hw
  have hve : Percent.encode value = "" ↔ value = "" := Form.written_eq_empty_iff hw
  by_cases hval : value = ""
  · subst hval
    have he : writePair (Authorizer.encodePair (key, "")) = Percent.encode key :=
      if_pos (hve.mpr rfl)
    refine ⟨?_, ?_, ?_⟩ <;> rw [he]
    · simp [hke]
    · exact hk.1
    · rw [Form.decodePair_of_name hk.2, hkey]
  · have he : writePair (Authorizer.encodePair (key, value)) =
        Percent.encode key ++ "=" ++ Percent.encode value := if_neg (mt hve.mp hval)
    refine ⟨?_, ?_, ?_⟩ <;> rw [he]
    · refine ⟨fun h => ?_, fun h => ?_⟩
      · have hh := congrArg String.length h
        simp at hh
      · exact absurd (congrArg Prod.snd h) hval
    · simp only [String.toList_append, List.mem_append, not_or]
      exact ⟨⟨hk.1, by decide⟩, hv.1⟩
    · rw [Form.decodePair_append _ hk.2, hkey, hvalue]

/-- Pairs as they are written into an address once all of them are encoded. -/
def encodedQuery (query : List (String × String)) : String :=
  joinWith "&" ((query.map Authorizer.encodePair).map writePair)

theorem isQueryChar_of_mem_encodedQuery {query : List (String × String)} {c : Char}
    (h : c ∈ (encodedQuery query).toList) : isQueryChar c = true ∧ c ≠ '?' := by
  obtain h | ⟨s, hs, h⟩ := mem_toList_joinWith h
  · rw [List.mem_singleton.mp h]
    decide
  · simp only [List.map_map, Function.comp_def] at hs
    obtain ⟨p, -, rfl⟩ := List.mem_map.mp hs
    exact isQueryChar_of_mem_writePair h

/-- A query that is encoded and read again has lost its empty pairs and nothing else. -/
theorem decode_encodedQuery (query : List (String × String)) :
    Form.decode (encodedQuery query) = query.filter (· ≠ ("", "")) := by
  have hamp : ∀ s ∈ query.map fun p => writePair (Authorizer.encodePair p), '&' ∉ s.toList := by
    intro s hs
    obtain ⟨p, -, rfl⟩ := List.mem_map.mp hs
    exact (writePair_encodePair p).2.1
  have hkept : query.filter (fun p => writePair (Authorizer.encodePair p) ≠ "") =
      query.filter (· ≠ ("", "")) := by
    apply List.filter_congr
    intro p _
    simp only [ne_eq, (writePair_encodePair p).1]
  have hread : ∀ p : String × String,
      Form.decodePair (Utf8.encode (writePair (Authorizer.encodePair p))) = p :=
    fun p => (writePair_encodePair p).2.2
  rw [encodedQuery]
  simp only [List.map_map, Function.comp_def]
  rw [Form.decode_joinWith hamp, List.filter_map, List.map_map]
  simp only [Function.comp_def, hkept, hread, List.map_id']

theorem query_encodeLeading (d : Draft) :
    (Authorizer.encodeLeading d d.query.length).query = d.query.map Authorizer.encodePair := by
  simp [Authorizer.encodeLeading]

theorem targetText_encodeLeading {d : Draft} (hq : d.query ≠ []) :
    (Authorizer.encodeLeading d d.query.length).targetText =
      d.path ++ "?" ++ encodedQuery d.query := by
  rw [targetText, query_encodeLeading, if_neg (by simpa using hq)]
  rfl

/-- Where there are pairs, whatever is in them, an address can be written if it is made of the right
characters up to the first number sign. The rest is left out. -/
theorem uri_eq_ok_of_query {d : Draft} (hp : IsPath d.path.toList) (hq : d.query ≠ []) {uri : Uri} :
    d.uri = .ok uri ↔
      d.path ≠ "*" ∧
        (PathAndQuery.withoutFragment (joinWith "&" (d.query.map writePair))).toList.all
          isQueryChar = true ∧
        ∃ t : PathAndQuery, uri = .absolute d.scheme d.authority t ∧ t.path = d.path ∧
          t.query = some (PathAndQuery.withoutFragment (joinWith "&" (d.query.map writePair))) := by
  have htext : d.targetText = d.path ++ "?" ++ joinWith "&" (d.query.map writePair) := by
    rw [targetText, if_neg (by simpa using hq)]
  rw [Draft.uri, htext]
  constructor
  · intro h
    split at h
    · cases h
    · rename_i t ht
      obtain ⟨hstar, hall, hpath, hquery⟩ := (PathAndQuery.ofText_append_eq_ok hp).mp ht
      cases h
      exact ⟨hstar, hall, t, rfl, hpath, hquery⟩
  · rintro ⟨hstar, hall, t, rfl, hpath, hquery⟩
    rw [(PathAndQuery.ofText_append_eq_ok hp).mpr ⟨hstar, hall, hpath, hquery⟩]
    rfl

theorem uri_of_query_nil {d : Draft} (hp : IsPath d.path.toList) (hne : d.path ≠ "")
    (hq : d.query = []) : ∃ t : PathAndQuery, d.uri = .ok (.absolute d.scheme d.authority t) ∧
      t.path = d.path ∧ t.query = none := by
  obtain ⟨t, ht, hpath, hnone⟩ := PathAndQuery.ofText_path hp hne
  refine ⟨t, ?_, hpath, hnone⟩
  have htext : d.targetText = d.path := by
    rw [targetText, hq]
    rfl
  rw [uri, htext, ht]
  rfl

/-- Whatever pairs there are, the address that is written has the path of the draft. -/
theorem exists_target_of_uri {d : Draft} (hp : IsPath d.path.toList) (hne : d.path ≠ "") {uri : Uri}
    (hu : d.uri = .ok uri) :
    ∃ t : PathAndQuery, uri = .absolute d.scheme d.authority t ∧ t.path = d.path := by
  by_cases hq : d.query = []
  · obtain ⟨t, ht, hpath, -⟩ := uri_of_query_nil hp hne hq
    cases hu.symm.trans ht
    exact ⟨t, rfl, hpath⟩
  · obtain ⟨-, -, t, rfl, hpath, -⟩ := (uri_eq_ok_of_query hp hq).mp hu
    exact ⟨t, rfl, hpath⟩

/-- Pairs cannot be added to the address of a server as a whole. -/
theorem uri_encodeLeading_of_star {d : Draft} (hq : d.query ≠ []) (hp : d.path = "*") :
    (Authorizer.encodeLeading d d.query.length).uri = .error UriDefect.noLeadingSlash.error := by
  rw [Draft.uri, targetText_encodeLeading hq, hp, PathAndQuery.ofText_star]

theorem path_ne_star_of_uri {d : Draft} (hq : d.query ≠ []) {uri : Uri}
    (hu : (Authorizer.encodeLeading d d.query.length).uri = .ok uri) : d.path ≠ "*" := by
  intro hp
  rw [uri_encodeLeading_of_star hq hp] at hu
  cases hu

theorem uri_encodeLeading_of_query {d : Draft} (h : d.IsAddressable) (hq : d.query ≠ []) :
    ∃ t : PathAndQuery, (Authorizer.encodeLeading d d.query.length).uri =
        .ok (.absolute d.scheme d.authority t) ∧ t.path = d.path ∧
      t.query = some (encodedQuery d.query) := by
  have hhead := head?_of_isPath h.path h.path_ne (mt h.query_of_star hq)
  have hchars : (encodedQuery d.query).toList.all isQueryChar = true :=
    List.all_eq_true.mpr fun c hc => (isQueryChar_of_mem_encodedQuery hc).1
  obtain ⟨t, ht, hpath, hsome⟩ := PathAndQuery.ofText_append h.path hhead hchars
  refine ⟨t, ?_, hpath, hsome⟩
  rw [uri, targetText_encodeLeading hq, ht]
  rfl

/-- The draft as it is put back into a request once all its pairs are encoded. -/
theorem uri_encodeLeading {d : Draft} (h : d.IsAddressable) :
    ∃ t : PathAndQuery, (Authorizer.encodeLeading d d.query.length).uri =
        .ok (.absolute d.scheme d.authority t) ∧ t.shownPath = d.path ∧
      (t.query.map Form.decode).getD [] = d.query.filter (· ≠ ("", "")) := by
  have hshown : ∀ t : PathAndQuery, t.path = d.path → t.shownPath = d.path := by
    intro t ht
    rw [PathAndQuery.shownPath, ht, if_neg h.path_ne]
  by_cases hq : d.query = []
  · have hnil : (Authorizer.encodeLeading d d.query.length).query = [] := by
      rw [query_encodeLeading, hq]
      rfl
    obtain ⟨t, ht, hpath, hnone⟩ := uri_of_query_nil
      (d := Authorizer.encodeLeading d d.query.length) h.path h.path_ne hnil
    exact ⟨t, ht, hshown t hpath, by simp [hnone, hq]⟩
  · obtain ⟨t, ht, hpath, hsome⟩ := uri_encodeLeading_of_query h hq
    exact ⟨t, ht, hshown t hpath, by simp only [hsome, Option.map_some, decode_encodedQuery]; rfl⟩

/-- Reading the request that a draft was put back into gives the draft without its empty pairs. -/
theorem ofHead_encoded {d : Draft} (h : d.IsAddressable) {uri : Uri}
    (hu : (Authorizer.encodeLeading d d.query.length).uri = .ok uri) :
    ofHead ⟨d.method, uri, d.headers⟩ =
      .ok { d with query := d.query.filter (· ≠ ("", "")) } := by
  obtain ⟨t, ht, hp, hq⟩ := uri_encodeLeading h
  cases hu.symm.trans ht
  simp [ofHead, Uri.target?, Uri.authority?, Uri.scheme?, hp, hq]

end Draft
end StorageAccess
