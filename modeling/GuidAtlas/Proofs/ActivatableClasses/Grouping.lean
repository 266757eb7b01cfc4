import GuidAtlas.Proofs.ActivatableClasses.Search
import GuidAtlas.Proofs.Directory
import GuidAtlas.Proofs.Text.Trim
import Mathlib.Data.List.Induction
import Mathlib.Data.List.Sort

/-!
Classes that were added pair by pair are the sorted grouping of these pairs. Only the spelling of a
library that is shown depends on the order in which they came.
-/

namespace GuidAtlas.ActivatableClasses

open Text

variable {classes : ActivatableClasses} {pairs others : List (Text × Text)}

theorem libraryKey_trim (library : Text) : libraryKey (trim library) = libraryKey library := by
  rw [libraryKey, libraryKey, trim, trim, trimOf_trimOf]

def groupOf (classes : ActivatableClasses) (library : Text) : ClassGroup :=
  (classes.libraries.get? (libraryKey library)).getD ⟨trim library, []⟩

/-- What adding a pair can do: its group has the class afterwards, and the number of classes has
grown as much as the group. -/
theorem add_cases (classes : ActivatableClasses) (library name : Text)
    (h : (classes.groupOf library).classes.Pairwise (· < ·)) :
    ∃ names grown,
      classes.add library name = ⟨classes.libraries.insert (libraryKey library)
        ⟨(classes.groupOf library).path, names⟩, classes.size + grown⟩ ∧
      names.Pairwise (· < ·) ∧ names.length = (classes.groupOf library).classes.length + grown ∧
      ∀ other, other ∈ names ↔ other ∈ (classes.groupOf library).classes ∨ other = name := by
  rcases search_cases h name with ⟨index, hsearch, hknown⟩ |
    ⟨index, hsearch, hindex, hbefore, hbehind⟩
  · refine ⟨(classes.groupOf library).classes, 0, ?_, h, rfl, fun other =>
      ⟨.inl, fun hor => hor.elim id (· ▸ hknown)⟩⟩
    rw [groupOf] at hsearch
    simp only [add, hsearch]
    rfl
  · refine ⟨(classes.groupOf library).classes.insertIdx index name, 1, ?_,
      pairwise_insertIdx h hbefore hbehind, List.length_insertIdx_of_le_length hindex _,
      fun other => by rw [List.mem_insertIdx hindex, or_comm]⟩
    rw [groupOf] at hsearch
    simp only [add, hsearch]
    rfl

/-- What the libraries say after these pairs, one after the other. -/
structure Standing (classes : ActivatableClasses) (pairs : List (Text × Text)) : Prop where
  path_eq : ∀ key, (classes.libraries.get? key).map (·.path) =
    (pairs.find? (libraryKey ·.1 = key)).map (trim ·.1)
  mem_iff : ∀ {key group}, classes.libraries.get? key = some group → ∀ name,
    name ∈ group.classes ↔ ∃ pair ∈ pairs, libraryKey pair.1 = key ∧ pair.2 = name
  sorted : ∀ {key group}, classes.libraries.get? key = some group →
    group.classes.Pairwise (· < ·)
  size_eq : classes.size = (classes.libraries.entries.map (·.2.classes.length)).sum

theorem standing_empty : Standing empty [] where
  path_eq key := by simp [empty]
  mem_iff h := by simp [empty] at h
  sorted h := by simp [empty] at h
  size_eq := rfl

theorem Standing.sorted_groupOf (h : Standing classes pairs) (library : Text) :
    (classes.groupOf library).classes.Pairwise (· < ·) := by
  rw [groupOf]
  cases hget : classes.libraries.get? (libraryKey library) with
  | none => exact .nil
  | some group => exact h.sorted hget

theorem Standing.mem_groupOf_iff (h : Standing classes pairs) (library name : Text) :
    name ∈ (classes.groupOf library).classes ↔
      ∃ pair ∈ pairs, libraryKey pair.1 = libraryKey library ∧ pair.2 = name := by
  rw [groupOf]
  cases hget : classes.libraries.get? (libraryKey library) with
  | some group => exact h.mem_iff hget name
  | none =>
      have hfind := h.path_eq (libraryKey library)
      rw [hget, Option.map_none, eq_comm, Option.map_eq_none_iff, List.find?_eq_none] at hfind
      refine iff_of_false List.not_mem_nil ?_
      rintro ⟨pair, hpair, hkey, -⟩
      exact hfind pair hpair (by simpa using hkey)

theorem Standing.add (h : Standing classes pairs) (library name : Text) :
    Standing (classes.add library name) (pairs ++ [(library, name)]) := by
  obtain ⟨names, grown, hadd, hsorted, hlength, hmem⟩ :=
    add_cases classes library name (h.sorted_groupOf library)
  have hpath : (classes.groupOf library).path =
      ((pairs.find? (libraryKey ·.1 = libraryKey library)).map (trim ·.1)).getD (trim library) := by
    rw [← h.path_eq, groupOf]
    cases classes.libraries.get? (libraryKey library) <;> rfl
  rw [hadd]
  constructor
  case path_eq =>
    intro key
    rw [Directory.get?_insert, List.find?_append, List.find?_singleton]
    by_cases hkey : key = libraryKey library
    case pos =>
      subst hkey
      rw [if_pos rfl, Option.map_some, hpath]
      cases pairs.find? _ <;> simp
    case neg =>
      rw [if_neg hkey, h.path_eq, if_neg (by simpa using Ne.symm hkey), Option.or_none]
  case mem_iff =>
    intro key group hget other
    rw [Directory.get?_insert] at hget
    split at hget
    case isTrue hkey =>
      cases hget
      rw [hmem, h.mem_groupOf_iff, hkey]
      simp [or_and_right, exists_or, eq_comm]
    case isFalse hkey =>
      rw [h.mem_iff hget]
      simp [or_and_right, exists_or, Ne.symm hkey]
  case sorted =>
    intro key group hget
    rw [Directory.get?_insert] at hget
    split at hget
    case isTrue =>
      cases hget
      exact hsorted
    case isFalse => exact h.sorted hget
  case size_eq =>
    have hsum := Directory.sum_insert classes.libraries (libraryKey library)
      ⟨(classes.groupOf library).path, names⟩ (·.classes.length)
    have hold : ((classes.libraries.get? (libraryKey library)).map (·.classes.length)).getD 0 =
        (classes.groupOf library).classes.length := by
      rw [groupOf]
      cases classes.libraries.get? (libraryKey library) <;> rfl
    rw [hold, ← h.size_eq] at hsum
    simp only at hsum ⊢
    omega

theorem standing_ofPairs (pairs : List (Text × Text)) : Standing (ofPairs pairs) pairs := by
  induction pairs using List.reverseRecOn with
  | nil => exact standing_empty
  | append_singleton pairs pair ih =>
      rw [ofPairs, List.foldl_concat]
      exact ih.add pair.1 pair.2

/-- The groups of classes as the sorted grouping of pairs of a library and a class. -/
structure IsGroupingOf (classes : ActivatableClasses) (pairs : List (Text × Text)) : Prop where
  ascending : (classes.groups.map fun group => libraryKey group.path).Pairwise (· < ·)
  exists_iff : ∀ key, (∃ group ∈ classes.groups, libraryKey group.path = key) ↔
    ∃ pair ∈ pairs, libraryKey pair.1 = key
  /-- A library is shown as it was first spelled. -/
  path_eq : ∀ group ∈ classes.groups,
    (pairs.find? (libraryKey ·.1 = libraryKey group.path)).map (trim ·.1) = some group.path
  mem_iff : ∀ group ∈ classes.groups, ∀ name, name ∈ group.classes ↔
    ∃ pair ∈ pairs, libraryKey pair.1 = libraryKey group.path ∧ pair.2 = name
  ne_nil : ∀ group ∈ classes.groups, group.classes ≠ []
  sorted : ∀ group ∈ classes.groups, group.classes.Pairwise (· < ·)
  size_eq : classes.size = (classes.groups.map (·.classes.length)).sum
  isEmpty_iff : classes.isEmpty = true ↔ classes.groups = []

/-- The group of a library is kept under the key of the path that it shows. -/
theorem Standing.key_eq (h : Standing classes pairs) {key : Text} {group : ClassGroup}
    (hget : classes.libraries.get? key = some group) : libraryKey group.path = key := by
  have hpath := h.path_eq key
  rw [hget, Option.map_some, eq_comm, Option.map_eq_some_iff] at hpath
  obtain ⟨pair, hfind, hpath⟩ := hpath
  rw [← hpath, libraryKey_trim]
  simpa using List.find?_some hfind

theorem Standing.mem_groups_iff (h : Standing classes pairs) {group : ClassGroup} :
    group ∈ classes.groups ↔
      classes.libraries.get? (libraryKey group.path) = some group := by
  simp only [groups, List.mem_map, Prod.exists, exists_eq_right, Directory.mem_entries_iff]
  constructor
  · rintro ⟨key, hget⟩
    rwa [h.key_eq hget]
  · exact fun hget => ⟨_, hget⟩

theorem Standing.keys_eq (h : Standing classes pairs) :
    classes.groups.map (libraryKey ·.path) = classes.libraries.entries.map Prod.fst := by
  rw [groups, List.map_map]
  exact List.map_congr_left fun entry hentry =>
    h.key_eq ((Directory.mem_entries_iff _ _ _).1 hentry)

theorem Standing.isGroupingOf (h : Standing classes pairs) : IsGroupingOf classes pairs := by
  have hgroup {group : ClassGroup} (hmem : group ∈ classes.groups) := h.mem_groups_iff.1 hmem
  have hsize : classes.size = (classes.groups.map (·.classes.length)).sum := by
    rw [h.size_eq, groups, List.map_map]
    rfl
  have hpath (group : ClassGroup) (hmem : group ∈ classes.groups) :
      (pairs.find? (libraryKey ·.1 = libraryKey group.path)).map (trim ·.1) =
        some group.path := by
    rw [← h.path_eq, hgroup hmem, Option.map_some]
  have hnil (group : ClassGroup) (hmem : group ∈ classes.groups) : group.classes ≠ [] := by
    obtain ⟨pair, hfind, -⟩ := Option.map_eq_some_iff.1 (hpath group hmem)
    have hkey : libraryKey pair.1 = libraryKey group.path := by simpa using List.find?_some hfind
    exact List.ne_nil_of_mem
      ((h.mem_iff (hgroup hmem) pair.2).2 ⟨pair, List.mem_of_find?_eq_some hfind, hkey, rfl⟩)
  constructor
  case ascending => exact h.keys_eq ▸ List.pairwise_map.2 classes.libraries.sorted
  case exists_iff =>
    intro key
    have hkeys : (∃ group ∈ classes.groups, libraryKey group.path = key) ↔
        ((classes.libraries.get? key).map (·.path)).isSome := by
      rw [Option.isSome_map, ← Directory.mem_keys_iff, ← h.keys_eq, List.mem_map]
    rw [hkeys, h.path_eq, Option.isSome_map, List.find?_isSome]
    simp
  case path_eq => exact hpath
  case mem_iff => exact fun group hmem => h.mem_iff (hgroup hmem)
  case ne_nil => exact hnil
  case sorted => exact fun group hmem => h.sorted (hgroup hmem)
  case size_eq => exact hsize
  case isEmpty_iff =>
    rw [isEmpty, decide_eq_true_eq, hsize, List.sum_eq_zero_iff_forall_eq_nat]
    constructor
    · intro hzero
      refine List.eq_nil_iff_forall_not_mem.2 fun group hmem => hnil group hmem ?_
      exact List.eq_nil_of_length_eq_zero (hzero _ (List.mem_map_of_mem hmem))
    · intro hempty
      simp [hempty]

/-- The groups with what does not depend on how their libraries are spelled. -/
def keyedClasses (classes : ActivatableClasses) : List (Text × List Text) :=
  classes.groups.map fun group => (libraryKey group.path, group.classes)

theorem IsGroupingOf.keyedClasses_subset {other : ActivatableClasses}
    (h : IsGroupingOf classes pairs) (hother : IsGroupingOf other others)
    (hpairs : ∀ pair, pair ∈ others ↔ pair ∈ pairs) :
    classes.keyedClasses ⊆ other.keyedClasses := by
  intro entry hentry
  obtain ⟨group, hgroup, rfl⟩ := List.mem_map.1 hentry
  have hexists := (h.exists_iff _).1 ⟨group, hgroup, rfl⟩
  simp only [← hpairs] at hexists
  obtain ⟨same, hsame, hkey⟩ := (hother.exists_iff _).2 hexists
  have hmem (name : Text) : name ∈ same.classes ↔ name ∈ group.classes := by
    rw [h.mem_iff group hgroup, hother.mem_iff same hsame, hkey]
    simp only [hpairs]
  have hclasses : same.classes = group.classes :=
    List.Subset.antisymm_of_pairwise (hother.sorted same hsame) (h.sorted group hgroup)
      (fun name => (hmem name).1) fun name => (hmem name).2
  exact List.mem_map.2 ⟨same, hsame, by rw [hkey, hclasses]⟩

theorem IsGroupingOf.sorted_keyedClasses (h : IsGroupingOf classes pairs) :
    classes.keyedClasses.Pairwise (·.1 < ·.1) := by
  rw [keyedClasses, List.pairwise_map]
  exact List.pairwise_map.1 h.ascending

theorem IsGroupingOf.keyedClasses_eq {other : ActivatableClasses}
    (h : IsGroupingOf classes pairs) (hother : IsGroupingOf other others)
    (hpairs : ∀ pair, pair ∈ others ↔ pair ∈ pairs) :
    other.keyedClasses = classes.keyedClasses := by
  have : Std.Antisymm fun first second : Text × List Text => first.1 < second.1 :=
    ⟨fun _ _ hlt hgt => absurd (List.lt_trans hlt hgt) (List.lt_irrefl _)⟩
  have : Std.Irrefl fun first second : Text × List Text => first.1 < second.1 :=
    ⟨fun _ => List.lt_irrefl _⟩
  exact List.Subset.antisymm_of_pairwise hother.sorted_keyedClasses h.sorted_keyedClasses
    (hother.keyedClasses_subset h fun pair => (hpairs pair).symm)
    (h.keyedClasses_subset hother hpairs)

/-- Classes added pair by pair are the sorted grouping of the pairs. The same pairs in another
order, or some of them more than once, give the same groups, which may only show other spellings. -/
theorem isGroupingOf_ofPairs (pairs : List (Text × Text)) :
    (ofPairs pairs).IsGroupingOf pairs ∧
    ∀ others : List (Text × Text), (∀ pair, pair ∈ others ↔ pair ∈ pairs) →
      (ofPairs others).keyedClasses = (ofPairs pairs).keyedClasses ∧
      (ofPairs others).size = (ofPairs pairs).size := by
  have h := (standing_ofPairs pairs).isGroupingOf
  refine ⟨h, fun others hpairs => ?_⟩
  have hothers := (standing_ofPairs others).isGroupingOf
  have hkeyed := h.keyedClasses_eq hothers hpairs
  have hlengths := congrArg (fun entries => (entries.map (·.2.length)).sum) hkeyed
  simp only [keyedClasses, List.map_map] at hlengths
  exact ⟨hkeyed, by rw [h.size_eq, hothers.size_eq]; exact hlengths⟩

/-- The spelling that comes first is the one that is shown. -/
theorem isGroupingOf_two_spellings :
    let pairs : List (Text × Text) :=
      [("C:\\Web.dll", "Web.Uri"), ("C:\\App.dll", "App.Start"), (" c:\\WEB.dll", "Web.Form")]
    let others : List (Text × Text) :=
      [(" c:\\WEB.dll", "Web.Form"), ("C:\\Web.dll", "Web.Uri"), ("C:\\App.dll", "App.Start"),
        (" c:\\WEB.dll", "Web.Form")]
    (∀ pair, pair ∈ others ↔ pair ∈ pairs) ∧
    (ofPairs pairs).groups.map (fun group => (group.path, group.classes)) =
      [("C:\\App.dll".toList, [("App.Start" : Text)]),
        ("C:\\Web.dll".toList, [("Web.Form" : Text), ("Web.Uri" : Text)])] ∧
    (ofPairs others).groups.map (·.path) = [("C:\\App.dll" : Text), ("c:\\WEB.dll" : Text)] ∧
    (ofPairs others).keyedClasses = (ofPairs pairs).keyedClasses ∧
    (ofPairs others).size = (ofPairs pairs).size := by
  intro pairs others
  have hothers : ∀ pair ∈ others, pair ∈ pairs := by decide +kernel
  have hback : ∀ pair ∈ pairs, pair ∈ others := by decide +kernel
  have hpairs (pair : Text × Text) : pair ∈ others ↔ pair ∈ pairs := ⟨hothers pair, hback pair⟩
  exact ⟨hpairs, by decide +kernel, by decide +kernel, (isGroupingOf_ofPairs pairs).2 others hpairs⟩

end GuidAtlas.ActivatableClasses
