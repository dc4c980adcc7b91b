import Mathlib.Data.List.Perm.Basic
import StorageAccess.Proofs.Signing.NamedComponent
import StorageAccess.Proofs.Text.ByteOrder

/-! The groups of a query lose nothing: every pair is in one of them, once. They come from putting the pairs
into groups one after the other, and in their order there are no other groups of the same pairs. -/
namespace StorageAccess

namespace Draft

/-- A name and its values. -/
abbrev NamedValues := String × List String

variable {groups : List NamedValues} {pairs : List (String × String)} {pair : String × String}
  {query : List (String × String)}

/-- The pairs that are in groups. -/
def members (groups : List NamedValues) : List (String × String) :=
  groups.flatMap fun group => group.2.map fun value => (group.1, value)

theorem members_cons (group : NamedValues) (groups : List NamedValues) :
    members (group :: groups) = (group.2.map fun value => (group.1, value)) ++ members groups :=
  List.flatMap_cons

theorem members_append (groups others : List NamedValues) :
    members (groups ++ others) = members groups ++ members others := List.flatMap_append

theorem mem_members : pair ∈ members groups ↔ ∃ g ∈ groups, ∃ value ∈ g.2, (g.1, value) = pair := by
  simp only [members, List.mem_flatMap, List.mem_map]

/-- Groups in the order of their different names. -/
def AreOrdered (groups : List NamedValues) : Prop := groups.Pairwise fun g h => g.1 < h.1

/-- Puts a pair into the group of its name, or into a new one at its place among the others. -/
def addPair (groups : List NamedValues) (pair : String × String) : List NamedValues :=
  match groups with
  | [] => [(pair.1, [pair.2])]
  | group :: rest =>
    if pair.1 = group.1 then (group.1, group.2 ++ [pair.2]) :: rest
    else if pair.1 < group.1 then (pair.1, [pair.2]) :: group :: rest
    else group :: addPair rest pair

/-- What adding a pair does: one group has a value more, and it may be new. -/
theorem addPair_cases (h : AreOrdered groups) (pair : String × String) : ∃ before values after,
    addPair groups pair = before ++ (pair.1, values ++ [pair.2]) :: after ∧
      (∀ g ∈ before, g.1 < pair.1) ∧ (∀ g ∈ after, pair.1 < g.1) ∧
      (groups = before ++ (pair.1, values) :: after ∨ values = [] ∧ groups = before ++ after) := by
  induction groups with
  | nil => exact ⟨[], [], [], rfl, nofun, nofun, .inr ⟨rfl, rfl⟩⟩
  | cons group rest ih =>
    obtain ⟨hfirst, hrest⟩ := List.pairwise_cons.mp h
    by_cases hname : pair.1 = group.1
    · refine ⟨[], group.2, rest, ?_, nofun, hname ▸ hfirst, .inl ?_⟩
      · rw [addPair, if_pos hname, hname]
        rfl
      · rw [hname]
        rfl
    by_cases hlt : pair.1 < group.1
    · refine ⟨[], [], group :: rest, ?_, nofun, ?_, .inr ⟨rfl, rfl⟩⟩
      · rw [addPair, if_neg hname, if_pos hlt]
        rfl
      · rw [List.forall_mem_cons]
        exact ⟨hlt, fun g hg => String.lt_trans hlt (hfirst g hg)⟩
    · have hgt : group.1 < pair.1 := Std.lt_of_le_of_ne (String.not_lt.mp hlt) (Ne.symm hname)
      obtain ⟨before, values, after, hadd, hbefore, hafter, hgroups⟩ := ih hrest
      refine ⟨group :: before, values, after, ?_, List.forall_mem_cons.mpr ⟨hgt, hbefore⟩, hafter, ?_⟩
      · rw [addPair, if_neg hname, if_neg hlt, hadd]
        rfl
      · obtain hold | ⟨hnew, hold⟩ := hgroups
        · exact .inl (by rw [hold]; rfl)
        · exact .inr ⟨hnew, by rw [hold]; rfl⟩

/-- Groups in order, none of them empty, with the given pairs in them. -/
structure Collects (pairs : List (String × String)) (groups : List NamedValues) : Prop where
  ordered : AreOrdered groups
  nonempty : ∀ g ∈ groups, g.2 ≠ []
  perm : (members groups).Perm pairs

/-- One more pair. -/
theorem Collects.cons (h : Collects pairs groups) (pair : String × String) :
    Collects (pair :: pairs) (addPair groups pair) := by
  obtain ⟨before, values, after, hadd, hbefore, hafter, hgroups⟩ := addPair_cases h.ordered pair
  have hkept : (before ++ after).Sublist groups := by
    obtain rfl | ⟨-, rfl⟩ := hgroups
    · exact (List.sublist_cons_self _ after).append_left before
    · exact List.Sublist.refl _
  have hmembers : members groups =
      members before ++ ((values.map fun value => (pair.1, value)) ++ members after) := by
    obtain rfl | ⟨rfl, rfl⟩ := hgroups
    · rw [members_append, members_cons]
    · rw [members_append, List.map_nil, List.nil_append]
  rw [hadd]
  constructor
  · obtain ⟨hb, ha, hcross⟩ := List.pairwise_append.mp (h.ordered.sublist hkept)
    refine List.pairwise_append.mpr ⟨hb, List.pairwise_cons.mpr ⟨hafter, ha⟩, fun g hg => ?_⟩
    exact List.forall_mem_cons.mpr ⟨hbefore g hg, hcross g hg⟩
  · have hold : ∀ g ∈ before ++ after, g.2 ≠ [] := fun g hg => h.nonempty g (hkept.mem hg)
    rw [List.forall_mem_append] at hold
    rw [List.forall_mem_append, List.forall_mem_cons]
    exact ⟨hold.1, by simp, hold.2⟩
  · -- the new value stands last in its group, and from there it is moved to the front
    refine List.Perm.trans ?_ (h.perm.cons pair)
    rw [hmembers, members_append, members_cons, List.map_append, List.append_assoc]
    exact (List.perm_middle.append_left (members before)).trans List.perm_middle

/-- All pairs one after the other. -/
theorem Collects.foldl (h : Collects pairs groups) (others : List (String × String)) :
    Collects (others ++ pairs) (others.foldl addPair groups) := by
  induction others generalizing pairs groups with
  | nil => exact h
  | cons pair rest ih =>
    have hrest := ih (h.cons pair)
    exact ⟨hrest.ordered, hrest.nonempty, hrest.perm.trans List.perm_middle⟩

namespace Collects

theorem mem_names_iff (h : Collects pairs groups) (name : String) :
    name ∈ groups.map (·.1) ↔ name ∈ pairs.map (·.1) := by
  rw [← (h.perm.map (·.1)).mem_iff, List.mem_map, List.mem_map]
  constructor
  · rintro ⟨g, hg, rfl⟩
    obtain ⟨value, hvalue⟩ := List.exists_mem_of_ne_nil g.2 (h.nonempty g hg)
    exact ⟨(g.1, value), mem_members.mpr ⟨g, hg, value, hvalue, rfl⟩, rfl⟩
  · rintro ⟨pair, hpair, rfl⟩
    obtain ⟨g, hg, value, -, rfl⟩ := mem_members.mp hpair
    exact ⟨g, hg, rfl⟩

/-- The names are those of the pairs, without repetitions and sorted. -/
theorem names_eq (h : Collects pairs groups) :
    groups.map (·.1) = ((pairs.map (·.1)).eraseDups).mergeSort textLe := by
  have hsorted : (groups.map (·.1)).Pairwise fun a b => textLe a b = true := by
    rw [List.pairwise_map]
    exact h.ordered.imp fun hlt => textLe_iff.mpr (Std.le_of_lt hlt)
  have hnodup : (groups.map (·.1)).Nodup := by
    rw [List.Nodup, List.pairwise_map]
    exact h.ordered.imp fun hlt => Std.ne_of_lt hlt
  have hperm : (groups.map (·.1)).Perm (pairs.map (·.1)).eraseDups := by
    rw [List.perm_ext_iff_of_nodup hnodup (nodup_eraseDups _)]
    intro name
    rw [List.mem_eraseDups, h.mem_names_iff]
  rw [← List.mergeSort_of_pairwise hsorted]
  exact mergeSort_textLe_of_perm hperm

theorem filter_members_of_ne {name : String} (h : ∀ g ∈ groups, g.1 ≠ name) :
    (members groups).filter (·.1 == name) = [] := by
  rw [List.filter_eq_nil_iff]
  intro pair hpair
  obtain ⟨g, hg, value, -, rfl⟩ := mem_members.mp hpair
  rw [beq_iff_eq]
  exact h g hg

/-- The values of a group are those of its name. -/
theorem values_perm (h : Collects pairs groups) {g : NamedValues} (hg : g ∈ groups) :
    g.2.Perm ((pairs.filter (·.1 == g.1)).map (·.2)) := by
  obtain ⟨before, after, rfl⟩ := List.append_of_mem hg
  obtain ⟨-, hg, hcross⟩ := List.pairwise_append.mp h.ordered
  have hbefore : ∀ k ∈ before, k.1 ≠ g.1 := fun k hk =>
    Std.ne_of_lt (hcross k hk g List.mem_cons_self)
  have hafter : ∀ k ∈ after, k.1 ≠ g.1 := fun k hk =>
    Ne.symm (Std.ne_of_lt ((List.pairwise_cons.mp hg).1 k hk))
  have hself : (g.2.map fun value => (g.1, value)).filter (·.1 == g.1) =
      g.2.map fun value => (g.1, value) := by
    rw [List.filter_eq_self, List.forall_mem_map]
    exact fun _ _ => beq_self_eq_true g.1
  have hperm := (h.perm.filter (·.1 == g.1)).map (·.2)
  rw [members_append, members_cons, List.filter_append, List.filter_append,
    filter_members_of_ne hbefore, filter_members_of_ne hafter, hself, List.nil_append, List.append_nil,
    List.map_map] at hperm
  simpa [Function.comp_def] using hperm

end Collects

/-- Groups of a query by name in small letters: the names increase, the values of each are sorted, both by
their bytes, and each pair of the query is in exactly one group, once. -/
structure IsGrouping (query : List (String × String)) (groups : List NamedValues) : Prop where
  ordered : groups.Pairwise fun g h => Utf8.encode g.1 < Utf8.encode h.1
  sorted : ∀ g ∈ groups, g.2.Pairwise Utf8.ByteLe
  nonempty : ∀ g ∈ groups, g.2 ≠ []
  once : (members groups).Perm (query.map smallPair)

theorem IsGrouping.collects (h : IsGrouping query groups) : Collects (query.map smallPair) groups :=
  ⟨h.ordered.imp Utf8.encode_lt_iff.mp, h.nonempty, h.once⟩

/-- There are no other such groups. -/
theorem IsGrouping.eq (h : IsGrouping query groups) :
    groups = (groupNames query).map fun name => (name, groupValues query name) := by
  -- names and values are determined one after the other, as groups do not share names
  rw [groupNames_eq, ← h.collects.names_eq, List.map_map]
  refine (List.map_id groups).symm.trans (List.map_congr_left fun g hg => Prod.ext rfl ?_)
  have hsorted : g.2.Pairwise fun a b => textLe a b = true :=
    (h.sorted g hg).imp fun hle => textLe_iff.mpr (Utf8.byteLe_iff.mp hle)
  change g.2 = groupValues query g.1
  rw [groupValues_eq, ← List.mergeSort_of_pairwise hsorted]
  exact mergeSort_textLe_of_perm (h.collects.values_perm hg)

theorem pairwise_byteLe_mergeSort (values : List String) :
    (values.mergeSort textLe).Pairwise Utf8.ByteLe := by
  have hsorted : (values.mergeSort textLe).Pairwise fun a b => textLe a b = true :=
    List.pairwise_mergeSort (fun a b _ (h : textLe a b = true) => textLe_trans h) textLe_total values
  exact hsorted.imp fun hle => Utf8.byteLe_iff.mpr (textLe_iff.mp hle)

/-- The groups after all pairs are put into them, with the values of each sorted in the end. -/
def collected (query : List (String × String)) : List NamedValues :=
  ((query.map smallPair).foldl addPair []).map fun group => (group.1, group.2.mergeSort textLe)

theorem isGrouping_collected (query : List (String × String)) : IsGrouping query (collected query) := by
  have hnil : Collects [] [] := ⟨List.Pairwise.nil, nofun, List.Perm.refl []⟩
  have hfold := hnil.foldl (query.map smallPair)
  rw [List.append_nil] at hfold
  unfold collected
  generalize (query.map smallPair).foldl addPair [] = groups at hfold
  constructor
  · rw [List.pairwise_map]
    exact hfold.ordered.imp Utf8.encode_lt_iff.mpr
  · rw [List.forall_mem_map]
    exact fun g _ => pairwise_byteLe_mergeSort g.2
  · rw [List.forall_mem_map]
    intro g hg hnil
    have hlength : (g.2.mergeSort textLe).length = 0 := List.length_eq_zero_iff.mpr hnil
    rw [List.length_mergeSort, List.length_eq_zero_iff] at hlength
    exact hfold.nonempty g hg hlength
  · refine List.Perm.trans ?_ hfold.perm
    rw [members, List.flatMap_map]
    exact List.Perm.flatMap_left _ fun g _ => (List.mergeSort_perm g.2 textLe).map _

theorem isGrouping_iff : IsGrouping query groups ↔ groups = collected query := by
  constructor
  · intro h
    rw [h.eq, (isGrouping_collected query).eq]
  · rintro rfl
    exact isGrouping_collected query

theorem queryGroups_eq_map_collected (d : Draft) :
    d.queryGroups = (collected d.query).map fun group => (group.1, joinWith "," group.2) := by
  rw [(isGrouping_collected d.query).eq, List.map_map]
  rfl

theorem groupValues_eq_mergeSort (d : Draft) (name : String) :
    groupValues d.query name = ((d.groupPairs name).map (·.2)).mergeSort textLe := rfl

/-- The groups of a query are those that collecting its pairs one by one comes to, the only grouping of
these pairs. -/
theorem queryGroups_lose_nothing (d : Draft) :
    d.queryGroups = ((collected d.query).map fun group => (group.1, joinWith "," group.2)) ∧
      (∀ groups, IsGrouping d.query groups ↔ groups = collected d.query) ∧
      (d.queryGroups.Pairwise fun g h => Utf8.encode g.1 < Utf8.encode h.1) ∧
      (∀ name, (∃ value, (name, value) ∈ d.queryGroups) ↔
        ∃ pair ∈ d.query, lowercase pair.1 = name) ∧
      ∀ name value, (name, value) ∈ d.queryGroups → ∃ values : List String,
        value = joinWith "," values ∧ values.Pairwise Utf8.ByteLe ∧
          values.Perm ((d.groupPairs name).map (·.2)) := by
  refine ⟨queryGroups_eq_map_collected d, fun groups => isGrouping_iff, ?_, fun name => ?_, ?_⟩
  · rw [queryGroups_eq_map_collected, List.pairwise_map]
    exact (isGrouping_collected d.query).ordered
  · simp only [mem_queryGroups, exists_and_left, exists_eq', and_true]
  · intro name value h
    obtain ⟨-, rfl⟩ := mem_queryGroups.mp h
    refine ⟨groupValues d.query name, rfl, pairwise_byteLe_mergeSort _, ?_⟩
    rw [groupValues_eq_mergeSort]
    exact List.mergeSort_perm _ textLe

/-- Names that are the same in small letters, and values that are sorted as texts and not as numbers. -/
def repeatedDraft : Draft :=
  { SharedKeyScheme.orderedDraft with query := [("comp", "list"), ("B", "2"), ("b", "10"), ("B", "2")] }

theorem queryGroups_lose_nothing_repeatedDraft : ("b", "10,2,2") ∈ repeatedDraft.queryGroups ∧
    ∃ values : List String, "10,2,2" = joinWith "," values ∧ values.Pairwise Utf8.ByteLe ∧
      values.Perm ["2", "10", "2"] := by
  have hvalues : (repeatedDraft.groupPairs "b").map (·.2) = ["2", "10", "2"] := by decide +kernel
  have hsorted : groupValues repeatedDraft.query "b" = ["10", "2", "2"] := by
    rw [groupValues_eq_mergeSort, hvalues,
      mergeSort_textLe_of_perm (by decide : ["2", "10", "2"].Perm ["10", "2", "2"])]
    exact List.mergeSort_of_pairwise (by decide +kernel)
  have hmem : ("b", "10,2,2") ∈ repeatedDraft.queryGroups :=
    mem_queryGroups.mpr ⟨⟨("b", "10"), by decide +kernel, by decide +kernel⟩, hsorted ▸ rfl⟩
  obtain ⟨-, -, -, -, hgroup⟩ := queryGroups_lose_nothing repeatedDraft
  exact ⟨hmem, hvalues ▸ hgroup "b" "10,2,2" hmem⟩

end Draft

end StorageAccess
