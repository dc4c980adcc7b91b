import StorageAccess.Proofs.Signing.IncidentalOrder
import StorageAccess.Proofs.Text.SmallNames

/-! Which component of a resource a request is for. The schemes look for it in two ways: by a name in any
case of A to Z, or among the names in small letters. All find one in the same requests, and the same one
unless the request names several. -/
namespace StorageAccess

namespace Draft

variable {d : Draft} {name key value : String}

theorem mem_groupNames {query : List (String × String)} :
    name ∈ groupNames query ↔ ∃ pair ∈ query, lowercase pair.1 = name := by
  rw [groupNames, List.mem_mergeSort, List.mem_eraseDups, List.mem_map]

theorem mem_queryGroups : (name, value) ∈ d.queryGroups ↔
    (∃ pair ∈ d.query, lowercase pair.1 = name) ∧ joinWith "," (groupValues d.query name) = value := by
  rw [queryGroups, List.mem_map, ← mem_groupNames]
  constructor
  · rintro ⟨other, hother, h⟩
    obtain ⟨rfl, hvalue⟩ := Prod.mk.inj h
    exact ⟨hother, hvalue⟩
  · rintro ⟨hname, rfl⟩
    exact ⟨name, hname, rfl⟩

/-- The pairs of a group. -/
def groupPairs (d : Draft) (name : String) : List (String × String) :=
  d.query.filter fun pair => lowercase pair.1 == name

/-- A plain name is looked for among the names in small letters. -/
theorem queryValue?_eq (hk : ∀ c ∈ key.toList, Lowercase.IsPlainSmall c) :
    d.queryValue? key = (d.groupPairs key).head?.map (·.2) := by
  have hsame : (fun pair : String × String => Lowercase.sameBasicLatin pair.1 key) =
      fun pair => lowercase pair.1 == key := by
    funext pair
    rw [Bool.eq_iff_iff, beq_iff_eq, Lowercase.lowercase_eq_iff hk]
  rw [queryValue?, hsame, groupPairs, List.head?_filter]

theorem exists_queryGroups_iff : (∃ value, (name, value) ∈ d.queryGroups) ↔ d.groupPairs name ≠ [] := by
  simp only [mem_queryGroups, exists_and_left, exists_eq', and_true, groupPairs, Ne, List.filter_eq_nil_iff,
    Classical.not_forall, beq_iff_eq, Classical.not_not, exists_prop]

theorem isSome_queryValue?_iff (hk : ∀ c ∈ key.toList, Lowercase.IsPlainSmall c) :
    (d.queryValue? key).isSome = true ↔ ∃ value, (key, value) ∈ d.queryGroups := by
  rw [queryValue?_eq hk, exists_queryGroups_iff, Option.isSome_map, List.isSome_head?]

/-- One pair makes a group of its own. -/
theorem mem_queryGroups_of_single {pair : String × String} (h : d.groupPairs name = [pair]) :
    (name, value) ∈ d.queryGroups ↔ value = pair.2 := by
  have hvalues : joinWith "," (groupValues d.query name) = pair.2 := by
    rw [groupValues]
    change joinWith "," (((d.groupPairs name).map (·.2)).mergeSort textLe) = pair.2
    rw [h, List.map_singleton, List.mergeSort_singleton]
    rfl
  have hmem : pair ∈ d.groupPairs name := h ▸ List.mem_singleton_self pair
  obtain ⟨hquery, hname⟩ := List.mem_filter.mp hmem
  rw [mem_queryGroups, and_iff_right ⟨pair, hquery, beq_iff_eq.mp hname⟩, hvalues]
  exact eq_comm

end Draft

namespace SharedKeyScheme

variable {d : Draft} {account value : String}

/-- A line for each group, with its end before it. -/
def groupLines (groups : List (String × String)) : String :=
  joinWith "" (groups.map fun group => "\n" ++ group.1 ++ ":" ++ group.2)

theorem fullResource_eq (d : Draft) (account : String) :
    fullResource d account = resourcePath d account ++ groupLines d.queryGroups := rfl

theorem groupLines_cons (group : String × String) (groups : List (String × String)) :
    groupLines (group :: groups) = "\n" ++ group.1 ++ ":" ++ group.2 ++ groupLines groups := by
  cases groups with
  | nil => simp [groupLines, joinWith]
  | cons next rest => simp [groupLines, joinWith]

theorem groupLines_append (groups others : List (String × String)) :
    groupLines (groups ++ others) = groupLines groups ++ groupLines others := by
  induction groups with
  | nil => simp [groupLines, joinWith]
  | cons group rest ih =>
    rw [List.cons_append, groupLines_cons, groupLines_cons, ih]
    simp only [String.append_assoc]

/-- A resource has a part for the component: the line of the group with its name, or an ending of its own.
The text alone does not tell whether a line is that of the group, since a name that goes on with a colon, or a
value with a line feed in it, can be written like it. -/
def NamesComponent (d : Draft) (account value : String) : SharedKeyScheme → Prop
  | .full => ∃ before after, d.queryGroups = before ++ ("comp", value) :: after ∧
      resource .full d account = resourcePath d account ++ groupLines before ++ "\ncomp:" ++ value
        ++ groupLines after
  | .lite => resource .lite d account = resourcePath d account ++ "?comp=" ++ value
  | .table => resource .table d account = resourcePath d account ++ "?comp=" ++ value

theorem namesComponent_full_iff : NamesComponent d account value .full ↔ ("comp", value) ∈ d.queryGroups := by
  constructor
  · rintro ⟨before, after, hgroups, -⟩
    rw [hgroups]
    exact List.mem_append_right _ List.mem_cons_self
  · intro h
    obtain ⟨before, after, hgroups⟩ := List.append_of_mem h
    refine ⟨before, after, hgroups, ?_⟩
    change fullResource d account = _
    rw [fullResource_eq, hgroups, groupLines_append, groupLines_cons]
    simp only [String.append_assoc]
    rfl

theorem componentResource_eq_iff : componentResource d account = resourcePath d account ++ "?comp=" ++ value ↔
    d.queryValue? "comp" = some value := by
  unfold componentResource
  cases d.queryValue? "comp" with
  | some component =>
    dsimp only
    rw [String.append_right_inj, Option.some.injEq]
  | none =>
    refine iff_of_false (fun h => ?_) nofun
    have hlength := congrArg String.length h
    simp only [String.length_append] at hlength
    change _ = _ + 6 + _ at hlength
    omega

theorem namesComponent_iff_of_ne {scheme : SharedKeyScheme} (h : scheme ≠ .full) :
    NamesComponent d account value scheme ↔ d.queryValue? "comp" = some value := by
  cases scheme with
  | full => exact absurd rfl h
  | lite => exact componentResource_eq_iff
  | table => exact componentResource_eq_iff

theorem isPlainSmall_comp : ∀ c ∈ "comp".toList, Lowercase.IsPlainSmall c := by
  have hall : "comp".toList.all (Lowercase.IsPlainSmall ·) = true := by decide
  intro c hc
  exact of_decide_eq_true (List.all_eq_true.mp hall c hc)

theorem exists_namesComponent_iff (scheme : SharedKeyScheme) :
    (∃ value, NamesComponent d account value scheme) ↔ ∃ value, ("comp", value) ∈ d.queryGroups := by
  by_cases h : scheme = .full
  · simp only [h, namesComponent_full_iff]
  · simp only [namesComponent_iff_of_ne h]
    rw [← Draft.isSome_queryValue?_iff isPlainSmall_comp, Option.isSome_iff_exists]

/-- All schemes look at the same requests for a component, and at the same one if there is one pair for it. -/
theorem schemes_agree_on_component (d : Draft) (account : String) :
    ((d.queryValue? "comp").isSome = true ↔ ∃ value, ("comp", value) ∈ d.queryGroups) ∧
      (∀ scheme, (∃ value, NamesComponent d account value scheme) ↔
        ∃ value, ("comp", value) ∈ d.queryGroups) ∧
      ∀ pair, d.groupPairs "comp" = [pair] →
        ∀ scheme value, NamesComponent d account value scheme ↔ value = pair.2 := by
  refine ⟨Draft.isSome_queryValue?_iff isPlainSmall_comp, exists_namesComponent_iff,
    fun pair h scheme value => ?_⟩
  by_cases hs : scheme = .full
  · rw [hs, namesComponent_full_iff, Draft.mem_queryGroups_of_single h]
  · rw [namesComponent_iff_of_ne hs, Draft.queryValue?_eq isPlainSmall_comp, h]
    exact Option.some_inj.trans eq_comm

/-- One name for the component, among names that look like it: with letters from other alphabets, and with
a blank after it. -/
def componentDraft : Draft :=
  { orderedDraft with query := [("com\u03C1", "1"), ("\u0441omp", "2"), ("cOMP", "List"), ("comp ", "3")] }

theorem schemes_agree_on_component_componentDraft :
    componentDraft.groupPairs "comp" = [("cOMP", "List")] ∧
      ∀ scheme, NamesComponent componentDraft "a" "List" scheme := by
  have h : componentDraft.groupPairs "comp" = [("cOMP", "List")] := by decide +kernel
  exact ⟨h, fun scheme => ((schemes_agree_on_component componentDraft "a").2.2 _ h scheme _).mpr rfl⟩

end SharedKeyScheme

end StorageAccess
