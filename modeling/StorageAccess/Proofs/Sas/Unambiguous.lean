import StorageAccess.Proofs.Sas.IssuedToken
import StorageAccess.Proofs.Text.Lines

/-! What a signature over access to a resource stands for. The signed text has a line for each field, and
the line with the resource names the service, which fixes how many lines there are. A grant whose texts
are single lines therefore shares its signed text only with grants of the same access, whatever texts
these are made of. -/
namespace StorageAccess

theorem Service.word_injective {a b : Service} (h : a.word = b.word) : a = b := by
  cases a <;> cases b <;> first | rfl | exact absurd h (by decide)

namespace Scope

/-- The names that a resource is found by. -/
def names : Scope → List String
  | .blob parent name => [parent, name]
  | .container name => [name]
  | .queue name => [name]
  | .table name => [name]
  | .file parent inner => [parent, inner]
  | .share name => [name]

variable {scope other : Scope} {account holder : String}

theorem isLine_withoutLeadingSlashes {s : String} (h : IsLine s) :
    IsLine (withoutLeadingSlashes s) := by
  rw [IsLine, withoutLeadingSlashes, String.toList_ofList]
  exact fun hm => h ((List.dropWhile_sublist _).subset hm)

theorem isLine_inner {parent inner : String} (hp : IsLine parent) (hi : IsLine inner) :
    IsLine (parent ++ "/" ++ withoutLeadingSlashes inner) :=
  isLine_append.mpr ⟨isLine_append.mpr ⟨hp, by decide⟩, isLine_withoutLeadingSlashes hi⟩

theorem isLine_path (h : ∀ name ∈ scope.names, IsLine name) : IsLine scope.path := by
  cases scope with
  | blob parent name => exact isLine_inner (h parent (by simp [names])) (h name (by simp [names]))
  | container name => exact h name (by simp [names])
  | queue name => exact h name (by simp [names])
  | table name => exact isLine_lowercase (h name (by simp [names]))
  | file parent inner => exact isLine_inner (h parent (by simp [names])) (h inner (by simp [names]))
  | share name => exact h name (by simp [names])

theorem isLine_canonicalPath (ha : IsLine account) (h : ∀ name ∈ scope.names, IsLine name) :
    IsLine (scope.canonicalPath account) := by
  have hword : IsLine scope.service.word := by cases scope.service <;> decide
  have hslash : IsLine "/" := by decide
  simp only [canonicalPath, isLine_append, hslash, hword, isLine_lowercase ha, isLine_path h, and_self]

/-- The service is told by what stands between the first two slashes. -/
theorem service_eq_of_append {x y : String}
    (h : scope.canonicalPath account ++ x = other.canonicalPath holder ++ y) :
    scope.service = other.service := by
  have hslash : ∀ service : Service, '/' ∉ service.word.toList := by
    intro service
    cases service <;> decide
  rw [← String.toList_inj] at h
  simp only [canonicalPath, String.toList_append, List.append_assoc] at h
  have hword := (append_cons_inj_of_not_mem (hslash _) (hslash _) (List.cons.inj h).2).1
  exact Service.word_injective (String.toList_inj.mp hword)

end Scope

namespace SasToken

variable {t u : SasToken} {account holder : String} {scope other : Scope}

/-- The names of the fields that only one service signs. -/
def ownNames : Service → List String
  | .blob => "sr" :: responseHeaderNames
  | .file => responseHeaderNames
  | .queue => []
  | .table => keyRangeNames

/-- The names of the fields that a service signs. -/
def signedNames (service : Service) : List String :=
  ["sp", "st", "se", "si", "sip", "spr", "sv"] ++ ownNames service

/-- The lines of the signed text. -/
def scopeLines (t : SasToken) (account : String) (scope : Scope) : List String :=
  [t.field "sp", t.field "st", t.field "se", scope.canonicalPath account, t.field "si",
    t.field "sip", t.field "spr", t.field "sv"] ++ t.serviceLines scope.service

theorem length_scopeLines (h : scope.service = other.service) :
    (t.scopeLines account scope).length = (u.scopeLines holder other).length := by
  rw [scopeLines, scopeLines, ← h]
  cases scope.service <;> rfl

theorem isLine_scopeLines (hf : ∀ name, IsLine (t.field name))
    (hp : IsLine (scope.canonicalPath account)) :
    ∀ line ∈ t.scopeLines account scope, IsLine line := by
  have hempty : IsLine "" := by decide
  rw [scopeLines]
  cases scope.service <;>
    simp [serviceLines, responseHeaderNames, keyRangeNames, hf, hp, hempty]

/-- The lines before the one with the resource are single lines in every token. -/
theorem service_eq_of_stringToSign
    (ht : ∀ name ∈ ["sp", "st", "se"], IsLine (t.field name))
    (hu : ∀ name ∈ ["sp", "st", "se"], IsLine (u.field name))
    (h : t.scopeStringToSign account scope = u.scopeStringToSign holder other) :
    scope.service = other.service := by
  have hs : "\n".toList = ['\n'] := rfl
  have hrest : ∀ {l : List String} {s : String}, s :: l ≠ [] := List.cons_ne_nil _ _
  have hfirst : ∀ {l : List String} {s : String}, l ≠ [] →
      joinWith "\n" (s :: l) = s ++ ("\n" ++ joinWith "\n" l) :=
    fun hl => by rw [joinWith_cons hl, String.append_assoc]
  simp only [scopeStringToSign, List.cons_append, List.nil_append] at h
  obtain ⟨-, h⟩ := joinWith_cons_inj hs (ht "sp" (by simp)) (hu "sp" (by simp)) hrest hrest h
  obtain ⟨-, h⟩ := joinWith_cons_inj hs (ht "st" (by simp)) (hu "st" (by simp)) hrest hrest h
  obtain ⟨-, h⟩ := joinWith_cons_inj hs (ht "se" (by simp)) (hu "se" (by simp)) hrest hrest h
  exact Scope.service_eq_of_append ((hfirst hrest).symm.trans (h.trans (hfirst hrest)))

theorem field_eq_of_serviceLines {service : Service}
    (h : t.serviceLines service = u.serviceLines service) :
    ∀ name ∈ ownNames service, t.field name = u.field name := by
  cases service with
  | blob =>
    obtain ⟨hkind, h⟩ := List.cons.inj h
    obtain ⟨-, h⟩ := List.cons.inj h
    exact List.forall_mem_cons.mpr ⟨hkind, List.map_inj_left.mp h⟩
  | file => exact List.map_inj_left.mp h
  | queue => exact fun name hn => absurd hn List.not_mem_nil
  | table => exact List.map_inj_left.mp h

theorem eq_of_scopeLines (hs : scope.service = other.service)
    (h : t.scopeLines account scope = u.scopeLines holder other) :
    scope.canonicalPath account = other.canonicalPath holder ∧
      ∀ name ∈ signedNames scope.service, t.field name = u.field name := by
  rw [scopeLines, scopeLines, ← hs] at h
  obtain ⟨hcommon, hown⟩ := List.append_inj h rfl
  simp only [List.cons.injEq, and_true] at hcommon
  obtain ⟨hsp, hst, hse, hpath, hsi, hsip, hspr, hsv⟩ := hcommon
  refine ⟨hpath, fun name hn => ?_⟩
  obtain hn | hn := List.mem_append.mp hn
  · simp only [List.mem_cons, List.not_mem_nil, or_false] at hn
    obtain rfl | rfl | rfl | rfl | rfl | rfl | rfl := hn <;> assumption
  · exact field_eq_of_serviceLines hown name hn

theorem isLine_field (h : ∀ p ∈ t.pairs, IsLine p.2) (name : String) : IsLine (t.field name) := by
  rw [field, get?]
  cases hf : t.pairs.find? (·.1 == name) with
  | none => decide
  | some p => exact h p (List.mem_of_find?_eq_some hf)

end SasToken

namespace ScopeGrant

variable {g h : ScopeGrant} {permissions : String} {u : SasToken}

def optionalTexts (g : ScopeGrant) : List (Option String) :=
  [g.policy.identifier, g.policy.ipRange, g.keyRange.startPartition, g.keyRange.startRow,
    g.keyRange.endPartition, g.keyRange.endRow, g.responseHeaders.cacheControl,
    g.responseHeaders.contentDisposition, g.responseHeaders.contentEncoding,
    g.responseHeaders.contentLanguage, g.responseHeaders.contentType]

/-- The texts that a grant is made of. -/
def texts (g : ScopeGrant) : List String :=
  g.account :: g.version :: (g.scope.names ++ g.optionalTexts.filterMap id)

theorem isLine_inOrder {s : CodeSet Permission} {scope : Scope}
    (hp : s.inOrder scope.permissionOrder = .ok permissions) : IsLine permissions := by
  have horder : IsLine scope.permissionOrder := by cases scope <;> simp [IsLine, Scope.permissionOrder]
  unfold CodeSet.inOrder at hp
  split at hp
  · cases hp
  · cases hp
    rw [IsLine, String.toList_ofList]
    exact fun hm => horder (List.mem_filter.mp hm).1

theorem isLine_time (t : Option Instant) : IsLine ((t.map Instant.iso8601).getD "") := by
  cases t with
  | none => decide
  | some t => exact t.isLine_iso8601

theorem isLine_getD {texts : List (Option String)} (ht : ∀ s ∈ texts.filterMap id, IsLine s) :
    ∀ text ∈ texts, IsLine (text.getD "")
  | none, _ => by decide
  | some s, hm => ht s (List.mem_filterMap.mpr ⟨some s, hm, rfl⟩)

/-- A field is a letter of its own, a time, a code, or one of the texts of the grant. -/
theorem isLine_fields (hl : ∀ text ∈ g.texts, IsLine text)
    (hp : g.policy.permissions.inOrder g.scope.permissionOrder = .ok permissions) :
    ∀ f ∈ g.fields permissions, IsLine f.2 := by
  rw [texts, List.forall_mem_cons, List.forall_mem_cons, List.forall_mem_append] at hl
  obtain ⟨-, hversion, hnames, hoptional⟩ := hl
  have hempty : IsLine "" := by decide
  have hkind : IsLine (g.scope.kindLetter?.getD "") := by
    cases g.scope <;> simp [Scope.kindLetter?, IsLine]
  have htable : IsLine (tableName g.scope) := by
    cases hs : g.scope with
    | table table => exact hnames table (by simp [hs, Scope.names])
    | _ => exact hempty
  have hprotocol : IsLine ((g.policy.protocol.map Protocol.text).getD "") := by
    cases g.policy.protocol with
    | none => exact hempty
    | some protocol => cases protocol <;> decide
  have hpermissions := isLine_inOrder hp
  have htexts := isLine_getD hoptional
  simp only [optionalTexts, List.forall_mem_cons] at htexts
  simp [fields, isLine_time, *]

/-- The fields that are signed first are single lines in every grant. -/
theorem isLine_field_unsigned (hu : g.unsigned = .ok u) :
    ∀ name ∈ ["sp", "st", "se"], IsLine (u.field name) := by
  obtain ⟨permissions, hp, rfl⟩ := exists_fields_of_unsigned hu
  have hd : ((g.fields permissions).map (·.1)).Nodup := (by decide : fieldNames.Nodup)
  have hfield : ∀ f ∈ g.fields permissions, IsLine f.2 →
      IsLine (((g.fields permissions).foldl (fun (t : SasToken) f => t.push f.1 f.2) ⟨[]⟩).field f.1) :=
    fun f hm hv => (SasToken.field_foldl_push hd hm).symm ▸ hv
  simp only [List.forall_mem_cons, List.not_mem_nil, false_implies, implies_true, and_true]
  exact ⟨hfield ("sp", permissions) (by simp [fields]) (isLine_inOrder hp),
    hfield ("st", (g.policy.start.map Instant.iso8601).getD "") (by simp [fields]) (isLine_time _),
    hfield ("se", (g.policy.expiry.map Instant.iso8601).getD "") (by simp [fields]) (isLine_time _)⟩

theorem stringToSign_eq_ok {s : String} : g.stringToSign = .ok s ↔
    ∃ u, g.unsigned = .ok u ∧ u.scopeStringToSign g.account g.scope = s := by
  rw [stringToSign, bind_eq_ok]
  exact exists_congr fun u => and_congr_right fun _ => pure_eq_ok.trans eq_comm

/-- A signature over access to a resource stands for one service, one resource and one value of every
signed field, whatever the texts of the other grant with the same signed text. -/
theorem eq_of_stringToSign_eq {s : String} (hg : g.stringToSign = .ok s) (hh : h.stringToSign = .ok s)
    (hl : ∀ text ∈ g.texts, IsLine text) :
    g.scope.service = h.scope.service ∧
      g.scope.canonicalPath g.account = h.scope.canonicalPath h.account ∧
      ∃ u v, g.unsigned = .ok u ∧ h.unsigned = .ok v ∧
        ∀ name ∈ SasToken.signedNames g.scope.service, u.get? name = v.get? name := by
  obtain ⟨u, hu, rfl⟩ := stringToSign_eq_ok.mp hg
  obtain ⟨v, hv, hs⟩ := stringToSign_eq_ok.mp hh
  -- the service comes first, since the number of lines depends on it
  have hservice : g.scope.service = h.scope.service :=
    SasToken.service_eq_of_stringToSign (isLine_field_unsigned hu) (isLine_field_unsigned hv) hs.symm
  have hpath : IsLine (g.scope.canonicalPath g.account) := by
    refine Scope.isLine_canonicalPath (hl _ (by simp [texts])) fun name hn => ?_
    exact hl name (by simp [texts, hn])
  have hfields : ∀ name, IsLine (u.field name) := by
    obtain ⟨permissions, hp, rfl⟩ := exists_fields_of_unsigned hu
    refine SasToken.isLine_field fun p hm => isLine_fields hl hp p ?_
    rw [SasToken.foldl_push] at hm
    exact (List.mem_filter.mp hm).1
  have hlines : u.scopeLines g.account g.scope = v.scopeLines h.account h.scope :=
    eq_of_joinWith_eq (c := '\n') rfl (SasToken.isLine_scopeLines hfields hpath)
      (SasToken.length_scopeLines hservice) hs.symm
  obtain ⟨hpaths, hsigned⟩ := SasToken.eq_of_scopeLines hservice hlines
  refine ⟨hservice, hpaths, u, v, hu, hv, fun name hn => ?_⟩
  rw [(isUnsigned_unsigned hu).get?_eq, (isUnsigned_unsigned hv).get?_eq, hsigned name hn]

/-- Access to a file under a stored policy. -/
def fileGrant : ScopeGrant where
  account := "a"
  key := .threeBytes
  scope := .file "s" "/p"
  policy := { identifier := some "i" }

/-- Access to a share by the name that the file has. -/
def shareGrant : ScopeGrant where
  account := "A"
  key := .threeBytes
  scope := .share "s/p"
  policy := { identifier := some "i" }

def sharedText : String := "\n\n\n/file/a/s/p\ni\n\n\n2018-11-09\n\n\n\n\n"

theorem eq_of_stringToSign_eq_fileGrant :
    fileGrant.stringToSign = .ok sharedText ∧ shareGrant.stringToSign = .ok sharedText ∧
      (∀ text ∈ fileGrant.texts, IsLine text) ∧ fileGrant.scope.service = shareGrant.scope.service ∧
      fileGrant.scope.canonicalPath "a" = shareGrant.scope.canonicalPath "A" ∧
      ∃ u v, fileGrant.unsigned = .ok u ∧ shareGrant.unsigned = .ok v ∧
        ∀ name ∈ SasToken.signedNames .file, u.get? name = v.get? name := by
  have hg : fileGrant.stringToSign = .ok sharedText := by rfl
  have hh : shareGrant.stringToSign = .ok sharedText := by rfl
  have hl : ∀ text ∈ fileGrant.texts, IsLine text := by decide
  exact ⟨hg, hh, hl, eq_of_stringToSign_eq hg hh hl⟩

end ScopeGrant

end StorageAccess
