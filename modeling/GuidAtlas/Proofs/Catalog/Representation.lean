import GuidAtlas.Proofs.Catalog.Step
import Mathlib.Data.List.Dedup

/-!
The three maps of a catalog agree. `Consistent` is the invariant: the rows are what the GUIDs of the
names say, each GUID with a row has a name among its rows, and so has each clash.
-/

namespace GuidAtlas.Catalog

open Text

/-- The agreement of the maps that every insertion preserves. -/
structure Consistent (catalog : Catalog) : Prop where
  lists_of_name : ∀ {guid name}, catalog.names.get? guid = some name → catalog.Lists guid name
  of_lists : ∀ {guid name}, catalog.Lists guid name →
    IsKey guid ∧ IsStoredName name ∧ (catalog.names.get? guid).isSome
  of_guids : ∀ {name guids}, catalog.guids.get? name = some guids → guids ≠ [] ∧ guids.Nodup
  of_clash : ∀ {guid names}, catalog.clashes.get? guid = some names →
    2 ≤ names.length ∧ names.Nodup ∧ ∀ name ∈ names, catalog.Lists guid name

variable {catalog : Catalog} {guid name : Text}

theorem consistent_empty : Consistent empty where
  lists_of_name h := by simp [empty] at h
  of_lists h := by simp [Lists, empty] at h
  of_guids h := by simp [empty] at h
  of_clash h := by simp [empty] at h

theorem Consistent.bind (h : Consistent catalog) (hkey : IsKey guid) (hname : IsStoredName name) :
    Consistent (catalog.bind guid name) where
  lists_of_name {g n} hget := by
    rw [names_bind, Directory.get?_insert] at hget
    rw [lists_bind]
    split at hget
    case isTrue heq => exact .inr ⟨heq, by simpa using hget.symm⟩
    case isFalse => exact .inl (h.lists_of_name hget)
  of_lists {g n} hlists := by
    rw [names_bind, Directory.get?_insert]
    -- A pair listed before keeps its GUID; the new pair brings its own.
    rcases lists_bind.1 hlists with hold | ⟨rfl, rfl⟩
    · obtain ⟨hg, hn, hsome⟩ := h.of_lists hold
      refine ⟨hg, hn, ?_⟩
      split
      · rfl
      · exact hsome
    · exact ⟨hkey, hname, by simp⟩
  of_guids {n guids} hget := by
    rw [get?_guids_bind] at hget
    split at hget
    case isTrue =>
      cases hget
      refine ⟨List.ne_nil_of_mem List.mem_insert_self, List.Nodup.insert ?_⟩
      cases hknown : catalog.guids.get? name with
      | none => exact List.nodup_nil
      | some known => exact (h.of_guids hknown).2
    case isFalse => exact h.of_guids hget
  of_clash {g names} hget := by
    obtain ⟨hlength, hnodup, hlists⟩ := h.of_clash hget
    exact ⟨hlength, hnodup, fun n hn => lists_bind.2 (.inl (hlists n hn))⟩

theorem appendNew_of_mem {names : List Text} (h : name ∈ names) : appendNew names name = names := by
  simp [appendNew, h]

theorem appendNew_of_not_mem {names : List Text} (h : name ∉ names) :
    appendNew names name = names ++ [name] := by
  simp [appendNew, h]

theorem mem_appendNew {names : List Text} {other : Text} :
    other ∈ appendNew names name ↔ other ∈ names ∨ other = name := by
  by_cases h : name ∈ names
  case pos =>
    rw [appendNew_of_mem h]
    exact ⟨.inl, fun hor => hor.elim id (· ▸ h)⟩
  case neg => simp [appendNew_of_not_mem h]

theorem nodup_appendNew {names : List Text} (h : names.Nodup) : (appendNew names name).Nodup := by
  by_cases hmem : name ∈ names
  case pos => rwa [appendNew_of_mem hmem]
  case neg =>
    rw [appendNew_of_not_mem hmem]
    simpa [List.nodup_append] using ⟨h, fun n hn heq => hmem (heq ▸ hn)⟩

theorem two_le_length_of_mem {names : List Text} {first second : Text} (hne : first ≠ second)
    (hfirst : first ∈ names) (hsecond : second ∈ names) : 2 ≤ names.length := by
  match names with
  | [] => simp at hfirst
  | [only] =>
      rw [List.mem_singleton] at hfirst hsecond
      exact absurd (hfirst.trans hsecond.symm) hne
  | _ :: _ :: _ => simp

theorem Consistent.recordClash {existing : Text} (h : Consistent catalog) (hne : existing ≠ name)
    (hname : catalog.Lists guid name) (hexisting : catalog.Lists guid existing) :
    Consistent (catalog.recordClash guid name existing) where
  lists_of_name := h.lists_of_name
  of_lists := h.of_lists
  of_guids := h.of_guids
  of_clash {g names} hget := by
    change (catalog.clashes.insert guid _).get? g = some names at hget
    rw [Directory.get?_insert] at hget
    split at hget
    case isTrue heq =>
      subst heq
      cases hget
      have hknown : ((catalog.clashes.get? g).getD []).Nodup ∧
          ∀ n ∈ (catalog.clashes.get? g).getD [], catalog.Lists g n := by
        cases hclash : catalog.clashes.get? g with
        | none => simp
        | some known => exact (h.of_clash hclash).2
      refine ⟨two_le_length_of_mem hne ?_ ?_, nodup_appendNew (nodup_appendNew hknown.1), ?_⟩
      · simp [mem_appendNew]
      · simp [mem_appendNew]
      · intro n hn
        rcases mem_appendNew.1 hn with hn | rfl
        · rcases mem_appendNew.1 hn with hn | rfl
          · exact hknown.2 n hn
          · exact hname
        · exact hexisting
    case isFalse => exact h.of_clash hget

theorem extendsName_self (name : Text) : extendsName name name = true := by
  have : contains name name = true := contains_iff.2 (List.infix_refl name)
  simp [extendsName, this]

theorem Consistent.insert (h : Consistent catalog) (hkey : IsKey guid) (hname : IsStoredName name) :
    Consistent (catalog.insert guid name) := by
  rcases insert_cases catalog guid name with ⟨-, heq⟩ | ⟨existing, hget, hcases⟩
  case inl => exact heq ▸ h.bind hkey hname
  case inr =>
    have hexisting := h.lists_of_name hget
    rcases hcases with ⟨-, heq⟩ | ⟨-, -, heq⟩ | ⟨hunrelated, -, heq⟩
    · exact heq ▸ h.bind hkey (h.of_lists hexisting).2.1
    · exact heq ▸ h.bind hkey hname
    · have hne : existing ≠ name := by
        rintro rfl
        rw [extendsName_self] at hunrelated
        cases hunrelated
      rw [heq]
      exact (h.bind hkey hname).recordClash hne (lists_bind.2 (.inr ⟨rfl, rfl⟩))
        (lists_bind.2 (.inl hexisting))

theorem Reachable.consistent {allowed : Text → Prop} (h : Reachable allowed catalog) :
    Consistent catalog :=
  h.invariant consistent_empty fun _ _ _ hcatalog hkey hname _ => hcatalog.insert hkey hname

/-- Every name with a row was allowed, or is that of an undocumented interface. -/
theorem Reachable.allowed_of_lists {allowed : Text → Prop}
    (hundocumented : ∀ name ∈ undocumentedInterfaces.map Prod.snd, allowed name)
    (h : Reachable allowed catalog) (hlists : catalog.Lists guid name) : allowed name := by
  have hall : Consistent catalog ∧ ∀ guid name, catalog.Lists guid name → allowed name := by
    refine h.invariant (p := fun catalog => Consistent catalog ∧
      ∀ guid name, catalog.Lists guid name → allowed name)
      ⟨consistent_empty, fun guid name h => by simp [Lists, Catalog.empty] at h⟩ ?_
    intro catalog guid name hstate hkey hname hallowed
    obtain ⟨hcatalog, hall⟩ := hstate
    have hnew : allowed name := hallowed.elim id (hundocumented name)
    refine ⟨hcatalog.insert hkey hname, fun g n hlists => ?_⟩
    rcases insert_cases catalog guid name with ⟨-, heq⟩ | ⟨existing, hget, hcases⟩
    case inl =>
      rw [heq, lists_bind] at hlists
      exact hlists.elim (hall g n) fun h => h.2 ▸ hnew
    case inr =>
      rcases hcases with ⟨-, heq⟩ | ⟨-, -, heq⟩ | ⟨-, -, heq⟩ <;> rw [heq, lists_bind] at hlists
      · exact hlists.elim (hall g n) fun h => h.2 ▸ hall guid existing (hcatalog.lists_of_name hget)
      · exact hlists.elim (hall g n) fun h => h.2 ▸ hnew
      · exact hlists.elim (hall g n) fun h => h.2 ▸ hnew
  exact hall.2 guid name hlists

theorem mem_entries_iff {row : Entry} :
    row ∈ catalog.entries ↔
      catalog.Lists row.guid row.name ∧ row.ambiguity = catalog.clashes.get? row.guid := by
  obtain ⟨guid, name, ambiguity⟩ := row
  simp only [entries, Lists, List.mem_flatMap, List.mem_map, Prod.exists,
    Directory.mem_entries_iff, Entry.mk.injEq]
  grind

theorem Lists.exists_row (h : catalog.Lists guid name) :
    ∃ row ∈ catalog.entries, row.guid = guid ∧ row.name = name :=
  ⟨⟨guid, name, catalog.clashes.get? guid⟩, mem_entries_iff.2 ⟨h, rfl⟩, rfl, rfl⟩

theorem nodup_entries (h : Consistent catalog) :
    (catalog.entries.map fun row => (row.name, row.guid)).Nodup := by
  rw [List.Nodup, List.pairwise_map, entries, List.pairwise_flatMap]
  constructor
  · rintro ⟨name, guids⟩ hmem
    rw [List.pairwise_map]
    refine (h.of_guids ((Directory.mem_entries_iff _ _ _).1 hmem)).2.imp fun hne heq => ?_
    exact hne (congrArg Prod.snd heq)
  · refine catalog.guids.sorted.imp fun {first second} hlt => ?_
    intro row hrow other hother heq
    obtain ⟨_, -, rfl⟩ := List.mem_map.1 hrow
    obtain ⟨_, -, rfl⟩ := List.mem_map.1 hother
    exact List.lt_irrefl _ (congrArg Prod.fst heq ▸ hlt)

theorem sorted_entries (catalog : Catalog) :
    (catalog.entries.map (·.name)).Pairwise fun first second =>
      first < second ∨ first = second := by
  rw [List.pairwise_map, entries, List.pairwise_flatMap]
  constructor
  · rintro ⟨name, guids⟩ -
    rw [List.pairwise_map]
    exact List.pairwise_of_forall fun _ _ => .inr rfl
  · refine catalog.guids.sorted.imp fun {first second} hlt => ?_
    intro row hrow other hother
    obtain ⟨_, -, rfl⟩ := List.mem_map.1 hrow
    obtain ⟨_, -, rfl⟩ := List.mem_map.1 hother
    exact .inl hlt

theorem size_eq_distinct_names (h : Consistent catalog) :
    catalog.size = (catalog.entries.map (·.name)).dedup.length := by
  refine Directory.size_eq_length _ (List.nodup_dedup _) fun name => ?_
  rw [List.mem_dedup, List.mem_map, Option.isSome_iff_exists]
  constructor
  · rintro ⟨row, hrow, rfl⟩
    obtain ⟨guids, hguids, -⟩ := (mem_entries_iff.1 hrow).1
    exact ⟨guids, hguids⟩
  · rintro ⟨guids, hguids⟩
    obtain ⟨guid, hguid⟩ := List.exists_mem_of_ne_nil _ (h.of_guids hguids).1
    obtain ⟨row, hrow, -, hname⟩ := Lists.exists_row ⟨guids, hguids, hguid⟩
    exact ⟨row, hrow, hname⟩

theorem guidCount_eq_distinct_guids (h : Consistent catalog) :
    catalog.guidCount = (catalog.entries.map (·.guid)).dedup.length := by
  refine Directory.size_eq_length _ (List.nodup_dedup _) fun guid => ?_
  rw [List.mem_dedup, List.mem_map]
  constructor
  · rintro ⟨row, hrow, rfl⟩
    exact (h.of_lists (mem_entries_iff.1 hrow).1).2.2
  · intro hsome
    obtain ⟨name, hname⟩ := Option.isSome_iff_exists.1 hsome
    obtain ⟨row, hrow, hguid, -⟩ := (h.lists_of_name hname).exists_row
    exact ⟨row, hrow, hguid⟩

/-- A GUID that one of the maps holds. -/
def Holds (catalog : Catalog) (guid : Text) : Prop :=
  (catalog.names.get? guid).isSome ∨ (catalog.clashes.get? guid).isSome ∨
    ∃ name, catalog.Lists guid name

/-- A name that one of the maps holds. -/
def HoldsName (catalog : Catalog) (name : Text) : Prop :=
  (∃ guid, catalog.names.get? guid = some name) ∨ (catalog.guids.get? name).isSome ∨
    ∃ guid names, catalog.clashes.get? guid = some names ∧ name ∈ names

theorem Consistent.exists_lists_of_holds (h : Consistent catalog) (hholds : catalog.Holds guid) :
    ∃ name, catalog.Lists guid name := by
  rcases hholds with hname | hclash | hlists
  · obtain ⟨name, hname⟩ := Option.isSome_iff_exists.1 hname
    exact ⟨name, h.lists_of_name hname⟩
  · obtain ⟨names, hclash⟩ := Option.isSome_iff_exists.1 hclash
    obtain ⟨hlength, -, hlists⟩ := h.of_clash hclash
    obtain ⟨name, hmem⟩ := List.exists_mem_of_length_pos (show 0 < names.length by omega)
    exact ⟨name, hlists name hmem⟩
  · exact hlists

theorem Consistent.exists_lists_of_holdsName (h : Consistent catalog)
    (hholds : catalog.HoldsName name) : ∃ guid, catalog.Lists guid name := by
  rcases hholds with ⟨guid, hname⟩ | hguids | ⟨guid, names, hclash, hmem⟩
  · exact ⟨guid, h.lists_of_name hname⟩
  · obtain ⟨guids, hguids⟩ := Option.isSome_iff_exists.1 hguids
    obtain ⟨guid, hguid⟩ := List.exists_mem_of_ne_nil _ (h.of_guids hguids).1
    exact ⟨guid, guids, hguids, hguid⟩
  · exact ⟨guid, (h.of_clash hclash).2.2 name hmem⟩

/-- What the maps of a reachable catalog promise: stored keys and names are valid, the name of a
GUID is one of its rows, the rows are sorted and without repetition, a clash has at least two names,
all with rows, and the two counts count the rows. -/
theorem Reachable.representation {allowed : Text → Prop} (h : Reachable allowed catalog) :
    ((∀ guid, catalog.Holds guid → IsKey guid) ∧
      ∀ name, catalog.HoldsName name → IsStoredName name) ∧
    (∀ guid name, catalog.nameOf? guid = some name →
      ∃ row ∈ catalog.entries, row.guid = upper guid ∧ row.name = name) ∧
    ((∀ row ∈ catalog.entries, (catalog.nameOf? row.guid).isSome) ∧
      (catalog.entries.map fun row => (row.name, row.guid)).Nodup ∧
      (catalog.entries.map (·.name)).Pairwise fun first second =>
        first < second ∨ first = second) ∧
    (∀ guid names, catalog.ambiguity? guid = some names → 2 ≤ names.length ∧ names.Nodup ∧
      ∀ name ∈ names, ∃ row ∈ catalog.entries, row.guid = upper guid ∧ row.name = name) ∧
    catalog.size = (catalog.entries.map (·.name)).dedup.length ∧
    catalog.guidCount = (catalog.entries.map (·.guid)).dedup.length := by
  have h := h.consistent
  refine ⟨⟨fun guid hholds => ?_, fun name hholds => ?_⟩, fun guid name hname => ?_,
    ⟨fun row hrow => ?_, nodup_entries h, sorted_entries catalog⟩, fun guid names hclash => ?_,
    size_eq_distinct_names h, guidCount_eq_distinct_guids h⟩
  · obtain ⟨name, hlists⟩ := h.exists_lists_of_holds hholds
    exact (h.of_lists hlists).1
  · obtain ⟨guid, hlists⟩ := h.exists_lists_of_holdsName hholds
    exact (h.of_lists hlists).2.1
  · exact (h.lists_of_name hname).exists_row
  · obtain ⟨hkey, -, hsome⟩ := h.of_lists (mem_entries_iff.1 hrow).1
    rwa [nameOf?, hkey.upper_eq]
  · obtain ⟨hlength, hnodup, hlists⟩ := h.of_clash hclash
    exact ⟨hlength, hnodup, fun name hname => (hlists name hname).exists_row⟩

/-- A GUID declared under two unrelated names, on top of the undocumented interfaces. -/
theorem representation_of_clash :
    let catalog :=
      (undocumented.addOrKeep "\x7baec22fb8-76f3-4639-9be0-28eb43a67a2e\x7d" "IFirst").addOrKeep
        "AEC22FB8-76F3-4639-9BE0-28EB43A67A2E" "ISecond"
    Reachable (fun _ => True) catalog ∧
    catalog.ambiguity? "aec22fb8-76f3-4639-9be0-28eb43a67a2e" =
      some (["ISecond", "IFirst"] : List Text) ∧
    (∀ row ∈ catalog.entries, (catalog.nameOf? row.guid).isSome) ∧
    catalog.size = (catalog.entries.map (·.name)).dedup.length := by
  intro catalog
  have hreachable : Reachable (fun _ => True) catalog :=
    .add (.add .undocumented _ _ fun _ _ _ => trivial) _ _ fun _ _ _ => trivial
  have hrepresentation := Reachable.representation hreachable
  refine ⟨hreachable, ?_, hrepresentation.2.2.1.1, hrepresentation.2.2.2.2.1⟩
  decide +kernel

end GuidAtlas.Catalog
