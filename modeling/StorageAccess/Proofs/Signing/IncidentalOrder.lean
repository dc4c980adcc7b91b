import StorageAccess.Proofs.Signing.SignedText

/-! What is incidental in a request leaves no trace in its full signed text: the order of headers with
different names, the order of the query, and capitals in the names of the query and of the account. -/
namespace StorageAccess

namespace Draft

variable {d e : Draft}

/-- A pair with its name in small letters. -/
def smallPair (pair : String × String) : String × String := (lowercase pair.1, pair.2)

theorem groupNames_eq (query : List (String × String)) :
    groupNames query = (((query.map smallPair).map (·.1)).eraseDups).mergeSort textLe := by
  rw [groupNames, List.map_map]
  rfl

theorem groupValues_eq (query : List (String × String)) (name : String) :
    groupValues query name =
      (((query.map smallPair).filter (·.1 == name)).map (·.2)).mergeSort textLe := by
  rw [groupValues, List.filter_map, List.map_map]
  rfl

/-- The groups are those of the pairs in small letters, however these came. -/
theorem queryGroups_of_perm (h : (d.query.map smallPair).Perm (e.query.map smallPair)) :
    d.queryGroups = e.queryGroups := by
  have hnames : groupNames d.query = groupNames e.query := by
    rw [groupNames_eq, groupNames_eq]
    exact mergeSort_textLe_of_perm (eraseDups_perm (h.map (·.1)))
  have hvalues : groupValues d.query = groupValues e.query := by
    funext name
    rw [groupValues_eq, groupValues_eq]
    exact mergeSort_textLe_of_perm ((h.filter (·.1 == name)).map (·.2))
  rw [queryGroups, queryGroups, hnames, hvalues]

end Draft

namespace SharedKeyScheme

/-- Requests that differ only in what is incidental are signed alike, or both not at all. -/
theorem stringToSign_full_of_perm {d e : Draft} {account other : String}
    (hm : d.method = e.method) (hp : d.path = e.path)
    (hh : ∀ name, d.headers.contents name = e.headers.contents name)
    (hq : (d.query.map Draft.smallPair).Perm (e.query.map Draft.smallPair))
    (ha : lowercase account = lowercase other) :
    stringToSign .full d account = stringToSign .full e other := by
  have hresource : fullResource d account = fullResource e other := by
    rw [fullResource, fullResource, resourcePath, resourcePath, ha, hp, Draft.queryGroups_of_perm hq]
  exact stringToSign_congr hm (fun name _ => hh name) hresource

def metaHeader : HeaderName := ⟨"x-ms-meta-a", by decide +kernel⟩

def digitZero : HeaderValue := ⟨[0x30], by decide +kernel, false⟩

def digitThree : HeaderValue := ⟨[0x33], by decide +kernel, false⟩

/-- A query in which two names differ until they are in small letters, one of them with the letter that
has two small forms. -/
def orderedDraft : Draft where
  method := ⟨"PUT", by decide +kernel⟩
  scheme := .http
  authority := ⟨"b", by decide +kernel, by rfl⟩
  path := "/c"
  query := [("comp", ""), ("ας", "1"), ("ΑΣ", "2")]
  headers := (((Headers.empty.append .contentLength digitZero).append metaHeader digitZero).append
    metaHeader digitThree.markSensitive).append .msDate digitThree

def shuffledDraft : Draft where
  method := orderedDraft.method
  scheme := .https
  authority := orderedDraft.authority
  path := "/c"
  query := [("Ας", "2"), ("ΑΣ", "1"), ("Comp", "")]
  headers := (((Headers.empty.append .msDate digitThree.markSensitive).append metaHeader
    digitZero).append .contentLength digitZero).append metaHeader digitThree

theorem contents_orderedDraft (name : HeaderName) :
    orderedDraft.headers.contents name = shuffledDraft.headers.contents name := by
  by_cases hlength : name = .contentLength
  · rw [hlength]
    decide +kernel
  by_cases hmeta : name = metaHeader
  · rw [hmeta]
    decide +kernel
  by_cases hdate : name = .msDate
  · rw [hdate]
    decide +kernel
  · simp [Headers.contents, orderedDraft, shuffledDraft, hlength, hmeta, hdate]

theorem stringToSign_full_shuffledDraft : orderedDraft ≠ shuffledDraft ∧
    stringToSign .full orderedDraft "Ab" = stringToSign .full shuffledDraft "aB" :=
  ⟨by decide +kernel, stringToSign_full_of_perm rfl rfl contents_orderedDraft (by decide +kernel)
    (by decide +kernel)⟩

end SharedKeyScheme

end StorageAccess
