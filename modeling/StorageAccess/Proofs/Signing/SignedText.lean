import StorageAccess.Proofs.Signing.Ordering
import StorageAccess.Signing.SharedKey

/-! What the signed text of a request depends on: the method, the resource, and the values that each
header has. The order of different headers plays no part, and the authorization header is not read. -/
namespace StorageAccess

namespace HeaderValue

def isReadable (v : HeaderValue) : Bool := v.bytes.all isReadableByte

/-- The bytes as characters. -/
def shown (v : HeaderValue) : String := String.ofList (v.bytes.map fun b => Char.ofNat b.toNat)

theorem text_eq_ite (v : HeaderValue) :
    v.text = if v.isReadable then .ok v.shown else .error HeaderDefect.unreadableValue := rfl

theorem text_congr {v w : HeaderValue} (h : v.bytes = w.bytes) : v.text = w.text := by
  rw [text, text, h]

end HeaderValue

namespace Headers

theorem mem_names {h : Headers} {name : HeaderName} : name ∈ h.names ↔ h.values name ≠ [] := by
  rw [names, List.mem_eraseDups, List.mem_map, values, Ne, List.map_eq_nil_iff,
    List.filter_eq_nil_iff]
  simp

theorem nodup_names (h : Headers) : h.names.Nodup := nodup_eraseDups _

/-- The values of a name as bytes. Whether a value must not be shown is no part of it. -/
def contents (h : Headers) (name : HeaderName) : List (List UInt8) :=
  (h.values name).map HeaderValue.bytes

theorem contents_eq_nil_iff {h : Headers} {name : HeaderName} :
    h.contents name = [] ↔ h.values name = [] := List.map_eq_nil_iff

/-- Headers with the same values of some names have the same names among these. -/
theorem filter_names_perm {g h : Headers} {p : HeaderName → Bool}
    (hv : ∀ name, p name = true → g.contents name = h.contents name) :
    (g.names.filter p).Perm (h.names.filter p) := by
  apply (List.perm_ext_iff_of_nodup (g.nodup_names.filter p) (h.nodup_names.filter p)).mpr
  intro name
  rw [List.mem_filter, List.mem_filter]
  apply and_congr_left
  intro hp
  rw [mem_names, mem_names, Ne, Ne, ← contents_eq_nil_iff, ← contents_eq_nil_iff, hv name hp]

end Headers

namespace Draft

variable {d e : Draft}

theorem headerText_congr {name : HeaderName}
    (h : d.headers.contents name = e.headers.contents name) :
    d.headerText name = e.headerText name := by
  have hhead := congrArg List.head? h
  rw [Headers.contents, Headers.contents, List.head?_map, List.head?_map] at hhead
  rw [headerText, headerText, Headers.get?, Headers.get?]
  cases hd : (d.headers.values name).head? <;> cases he : (e.headers.values name).head? <;>
    rw [hd, he] at hhead
  · cases hhead
  · cases hhead
  · exact HeaderValue.text_congr (Option.some.inj hhead)

theorem joinedHeader_eq_ite (d : Draft) (name : HeaderName) :
    d.joinedHeader name =
      if (d.headers.values name).all HeaderValue.isReadable then
        .ok (joinWith "," ((d.headers.values name).map HeaderValue.shown))
      else .error HeaderDefect.unreadableValue := by
  rw [joinedHeader, mapM_eq_ite HeaderValue.text_eq_ite]
  split <;> rfl

def isReadableField (d : Draft) (name : HeaderName) : Bool :=
  (d.headers.values name).all HeaderValue.isReadable

/-- A header with its values as they are signed. -/
def shownField (d : Draft) (name : HeaderName) : String × String :=
  (name.text, joinWith "," ((d.headers.values name).map HeaderValue.shown))

theorem isReadableField_congr {name : HeaderName}
    (h : d.headers.contents name = e.headers.contents name) :
    d.isReadableField name = e.isReadableField name := by
  have hbytes : ∀ d : Draft, d.isReadableField name =
      (d.headers.contents name).all (·.all isReadableByte) := fun d => by
    rw [Headers.contents, List.all_map]
    rfl
  rw [hbytes, hbytes, h]

theorem shownField_congr {name : HeaderName}
    (h : d.headers.contents name = e.headers.contents name) :
    d.shownField name = e.shownField name := by
  have hbytes : ∀ d : Draft, (d.headers.values name).map HeaderValue.shown =
      (d.headers.contents name).map fun bytes =>
        String.ofList (bytes.map fun b => Char.ofNat b.toNat) := fun d => by
    rw [Headers.contents, List.map_map]
    rfl
  rw [shownField, shownField, hbytes, hbytes, h]

def namesWithPrefix (d : Draft) (start : String) : List HeaderName :=
  d.headers.names.filter fun name => start.toList.isPrefixOf name.text.toList

theorem headersWithPrefix_eq_ite (d : Draft) (start : String) :
    d.headersWithPrefix start =
      if (d.namesWithPrefix start).all d.isReadableField then
        .ok (((d.namesWithPrefix start).map d.shownField).mergeSort pairLe)
      else .error HeaderDefect.unreadableValue := by
  have hfield : ∀ name, (do return (name.text, ← d.joinedHeader name)) =
      if d.isReadableField name then .ok (d.shownField name)
      else .error HeaderDefect.unreadableValue := by
    intro name
    rw [joinedHeader_eq_ite, isReadableField]
    split <;> rfl
  rw [headersWithPrefix, mapM_eq_ite hfield, namesWithPrefix]
  split <;> rfl

theorem headersWithPrefix_congr {start : String}
    (h : ∀ name : HeaderName, start.toList.isPrefixOf name.text.toList = true →
      d.headers.contents name = e.headers.contents name) :
    d.headersWithPrefix start = e.headersWithPrefix start := by
  have hperm : (d.namesWithPrefix start).Perm (e.namesWithPrefix start) :=
    Headers.filter_names_perm h
  have hcontents : ∀ name ∈ d.namesWithPrefix start,
      d.headers.contents name = e.headers.contents name :=
    fun name hn => h name (List.mem_filter.mp hn).2
  have hreadable : (d.namesWithPrefix start).all d.isReadableField =
      (e.namesWithPrefix start).all e.isReadableField := by
    rw [← hperm.all_eq, Bool.eq_iff_iff, List.all_eq_true, List.all_eq_true]
    apply forall₂_congr
    intro name hn
    rw [isReadableField_congr (hcontents name hn)]
  have hshown : (d.namesWithPrefix start).map d.shownField =
      (d.namesWithPrefix start).map e.shownField :=
    List.map_congr_left fun name hn => shownField_congr (hcontents name hn)
  rw [headersWithPrefix_eq_ite, headersWithPrefix_eq_ite, hreadable, hshown,
    mergeSort_pairLe_of_perm (hperm.map e.shownField)]

end Draft

namespace SharedKeyScheme

variable {d e : Draft}

theorem contentLengthLine_congr
    (h : ∀ name, name ≠ .authorization → d.headers.contents name = e.headers.contents name) :
    contentLengthLine d = contentLengthLine e := by
  rw [contentLengthLine, contentLengthLine, Draft.headerText_congr (h .contentLength (by decide)),
    Draft.headerText_congr (h .msVersion (by decide))]

theorem serviceHeaders_congr
    (h : ∀ name, name ≠ .authorization → d.headers.contents name = e.headers.contents name) :
    serviceHeaders d = serviceHeaders e := by
  have hp : d.headersWithPrefix "x-ms-" = e.headersWithPrefix "x-ms-" := by
    apply Draft.headersWithPrefix_congr
    intro name hn
    apply h name
    rintro rfl
    exact absurd hn (by decide)
  rw [serviceHeaders, serviceHeaders, hp]

theorem tableDate_congr
    (h : ∀ name, name ≠ .authorization → d.headers.contents name = e.headers.contents name) :
    tableDate d = tableDate e := by
  rw [tableDate, tableDate, Draft.headerText_congr (h .msDate (by decide)),
    Draft.headerText_congr (h .date (by decide))]

/-- What a signature says it is for. -/
def resource (scheme : SharedKeyScheme) (d : Draft) (account : String) : String :=
  match scheme with
  | .full => fullResource d account
  | .lite => componentResource d account
  | .table => componentResource d account

/-- Requests for the same resource are signed alike if each header but one has the same values. -/
theorem stringToSign_congr {scheme : SharedKeyScheme} {account other : String}
    (hm : d.method = e.method)
    (hh : ∀ name, name ≠ .authorization → d.headers.contents name = e.headers.contents name)
    (hr : scheme.resource d account = scheme.resource e other) :
    scheme.stringToSign d account = scheme.stringToSign e other := by
  have ht : ∀ name, name ≠ .authorization → d.headerText name = e.headerText name := fun name hn =>
    Draft.headerText_congr (hh name hn)
  cases scheme with
  | full =>
    change fullText d account = fullText e other
    replace hr : fullResource d account = fullResource e other := hr
    rw [fullText, fullText, ht .contentEncoding (by decide), ht .contentLanguage (by decide),
      contentLengthLine_congr hh, ht .contentMd5 (by decide), ht .contentType (by decide),
      ht .date (by decide), ht .ifModifiedSince (by decide), ht .ifMatch (by decide),
      ht .ifNoneMatch (by decide), ht .ifUnmodifiedSince (by decide), ht .range (by decide),
      serviceHeaders_congr hh, hm, hr]
  | lite =>
    change liteText d account = liteText e other
    replace hr : componentResource d account = componentResource e other := hr
    rw [liteText, liteText, ht .contentMd5 (by decide), ht .contentType (by decide),
      ht .date (by decide), serviceHeaders_congr hh, hm, hr]
  | table =>
    change tableText d account = tableText e other
    replace hr : componentResource d account = componentResource e other := hr
    rw [tableText, tableText, tableDate_congr hh, ht .contentMd5 (by decide),
      ht .contentType (by decide), hm, hr]

end SharedKeyScheme

end StorageAccess
