import GuidAtlas.Proofs.Catalog.Ambiguity
import GuidAtlas.Proofs.Export.LookupRoundTrip

/-!
What the lookups of one catalog answer for the same GUID: the catalog the name it resolves to, the
exported file the name of its first row, the source table that of its last row. They agree exactly
if the GUID never moved on to another name, which is when its first name extends all others.
-/

namespace GuidAtlas.Export

open Text Lookup Storage Catalog

variable {catalog : Catalog} {declarations : List (Text × Text)} {guid key : Text}

def rowNames (catalog : Catalog) (key : Text) : List Text :=
  (catalog.entries.filter (·.guid = key)).map (·.name)

theorem mem_rowNames {name : Text} : name ∈ rowNames catalog key ↔ catalog.Lists key name := by
  simp only [rowNames, List.mem_map, List.mem_filter, decide_eq_true_eq]
  constructor
  · rintro ⟨row, ⟨hrow, rfl⟩, rfl⟩
    exact (mem_entries_iff.1 hrow).1
  · intro hlists
    obtain ⟨row, hrow, hguid, hname⟩ := hlists.exists_row
    exact ⟨row, ⟨hrow, hguid⟩, hname⟩

theorem pairwise_rowNames (h : Consistent catalog) (key : Text) :
    (rowNames catalog key).Pairwise (· < ·) := by
  have hsorted := List.pairwise_map.1 (sorted_entries catalog)
  have hnodup := List.pairwise_map.1 (nodup_entries h)
  rw [rowNames, List.pairwise_map, List.pairwise_filter]
  refine (hsorted.and hnodup).imp fun {first second} hrows hfirst hsecond => ?_
  rw [decide_eq_true_eq] at hfirst hsecond
  exact hrows.1.resolve_right fun heq => hrows.2 (by rw [heq, hfirst, hsecond])

theorem eq_of_head?_of_getLast? {names : List Text} (h : names.Pairwise (· < ·)) {name other : Text}
    (hhead : names.head? = some name) (hlast : names.getLast? = some name)
    (hother : other ∈ names) :
    other = name := by
  match names, hhead with
  | _ :: rest, rfl =>
      rcases List.mem_cons.1 hother with heq | hother
      · exact heq
      · rw [List.getLast?_cons_of_ne_nil (List.ne_nil_of_mem hother)] at hlast
        have hlt := (List.pairwise_cons.1 h).1 name (List.mem_of_getLast? hlast)
        exact absurd hlt (List.lt_irrefl name)

theorem get?_ofEntries_rows {entries : List Entry} (h : ∀ row ∈ entries, IsKey row.guid)
    (key : Text) :
    (Registry.ofEntries (rowPairs entries)).names.get? key =
      (entries.reverse.find? (·.guid = key)).map (·.name) := by
  have hkeys : ∀ pair ∈ (rowPairs entries).reverse, IsKey pair.1 := fun pair hpair =>
    isKey_of_mem_rowPairs h pair (List.mem_reverse.1 hpair)
  rw [get?_ofEntries, ← List.head?_filter, filter_normalizeKey hkeys, List.head?_filter, rowPairs,
    ← List.map_reverse, List.find?_map, Option.map_map]
  rfl

/-- What the two exports of a catalog answer for a GUID in any letter case. -/
theorem exists_loaded (h : catalog.Reachable FitsLine) (exporter : Exporter) {tree : Tree}
    {path : Path} (hread : tree.read path = .ok (encode (exporter.render catalog .ini))) :
    ∃ database, Database.load tree path = .ok database ∧
      ∀ guid, (catalog.nameOf? guid).isSome →
        database.nameOf? guid = (rowNames catalog (upper guid)).head? ∧
        (Registry.ofEntries (rowPairs catalog.entries)).nameOf? guid =
          (rowNames catalog (upper guid)).getLast? := by
  have hplain := plainRow_of_reachable h
  refine ⟨⟨path, indexFirst (rowPairs catalog.entries)⟩, ?_, fun guid hknown => ?_⟩
  · simp only [Database.load, hread, decode?_encode]
    exact ofText_interfacePage (not_lf_of_title exporter) (not_lf_of_comment exporter catalog)
      hplain path
  · obtain ⟨name, hname⟩ := Option.isSome_iff_exists.1 hknown
    have hkey := (h.consistent.of_lists (h.consistent.lists_of_name hname)).1
    rw [Database.nameOf?, Registry.nameOf?, Guid.normalizeKey_of_isCanonical hkey.canonical,
      get?_indexFirst_rows hplain, get?_ofEntries_rows fun row hrow => (hplain row hrow).key,
      rowNames, List.head?_map, List.getLast?_map, List.head?_filter, List.getLast?_filter]
    exact ⟨rfl, rfl⟩

theorem resolved_of_extends {first : Text} {rest : List Text}
    (h : ∀ name ∈ rest, extendsName first name = true) : resolved (first :: rest) = some first := by
  induction rest using List.reverseRecOn with
  | nil => rfl
  | append_singleton rest next ih =>
      have hrest := ih fun name hname => h name (List.mem_append_left _ hname)
      rw [← List.cons_append, resolved_append, hrest, nextName,
        if_pos (h next List.mem_concat_self)]

/-- A GUID resolves to its first name all along exactly if that name extends all later ones. -/
theorem forall_resolved_iff {first : Text} {rest : List Text} :
    (∀ before name, before <+: first :: rest → resolved before = some name → name = first) ↔
      ∀ name ∈ rest, extendsName first name = true := by
  constructor
  · intro h name hname
    obtain ⟨start, tail, rfl⟩ := List.append_of_mem hname
    obtain ⟨current, hcurrent⟩ := exists_resolved (List.cons_ne_nil first start)
    cases h _ _ (by simp) hcurrent
    have hstays := h (first :: start ++ [name]) _ (by simp) (by rw [resolved_append, hcurrent]; rfl)
    split at hstays
    case isTrue hextends => exact hextends
    case isFalse => rw [hstays, extendsName_self]
  · intro h before name hprefix hresolved
    rcases List.prefix_cons_iff.1 hprefix with rfl | ⟨start, rfl, hstart⟩
    · cases hresolved
    · rw [resolved_of_extends fun other hother => h other (hstart.subset hother)] at hresolved
      cases hresolved
      rfl

/-- First and last row have the name that a GUID resolves to exactly if it never had another. -/
theorem rowNames_agree_iff {names : List Text} {current : Text} (h : Consistent catalog)
    (hstanding : Standing catalog key names) (hcurrent : catalog.names.get? key = some current) :
    (some current = (rowNames catalog key).head? ∧
        (rowNames catalog key).head? = (rowNames catalog key).getLast?) ↔
      ∃ first rest, names = first :: rest ∧ ∀ name ∈ rest, extendsName first name = true := by
  have hresolved : resolved names = some current := hstanding.name ▸ hcurrent
  have hmem (name : Text) : name ∈ rowNames catalog key ↔
      ∃ before, before <+: names ∧ resolved before = some name := by
    rw [mem_rowNames, hstanding.row]
  -- Rows are sorted and all different, so first and last row agree only if there is no other.
  constructor
  · rintro ⟨hhead, hlast⟩
    have honly (name : Text) (hname : name ∈ rowNames catalog key) : name = current :=
      eq_of_head?_of_getLast? (pairwise_rowNames h key) hhead.symm (hlast.symm.trans hhead.symm)
        hname
    obtain ⟨first, rest, rfl⟩ := List.exists_cons_of_ne_nil (List.ne_nil_of_mem
      (mem_of_resolved hresolved))
    have hfirst : first = current := honly first ((hmem first).2 ⟨[first], by simp, rfl⟩)
    refine ⟨first, rest, rfl, forall_resolved_iff.1 fun before name hprefix hbefore => ?_⟩
    rw [hfirst]
    exact honly name ((hmem name).2 ⟨before, hprefix, hbefore⟩)
  · rintro ⟨first, rest, rfl, hextends⟩
    have honly (name : Text) (hname : name ∈ rowNames catalog key) : name = first := by
      obtain ⟨before, hprefix, hbefore⟩ := (hmem name).1 hname
      exact forall_resolved_iff.2 hextends before name hprefix hbefore
    have hrow : current ∈ rowNames catalog key := (hmem current).2 ⟨_, List.prefix_rfl, hresolved⟩
    have hlength : (rowNames catalog key).length ≠ 0 := (List.length_pos_of_mem hrow).ne'
    rw [List.eq_replicate_of_mem honly, honly current hrow, List.head?_replicate,
      List.getLast?_replicate, if_neg hlength]
    exact ⟨rfl, rfl⟩

/-- For a GUID that was declared, the exported file and the source table resolve to what the catalog
resolves to exactly if the first name of the GUID extends all its others. -/
theorem lookups_agree_iff
    (hnames : ∀ declaration ∈ declarations, ∀ key stored,
      accept declaration.1 declaration.2 = .ok (key, stored) → FitsLine stored)
    (exporter : Exporter) {tree : Tree} {path : Path}
    (hread : tree.read path =
      .ok (encode (exporter.render (Catalog.empty.addAll declarations) .ini)))
    (hknown : ((Catalog.empty.addAll declarations).nameOf? guid).isSome) :
    ∃ database, Database.load tree path = .ok database ∧
      (((Catalog.empty.addAll declarations).nameOf? guid = database.nameOf? guid ∧
          database.nameOf? guid =
            (Registry.ofEntries (rowPairs (Catalog.empty.addAll declarations).entries)).nameOf?
              guid) ↔
        ∃ first rest, namesFor (upper guid) declarations = first :: rest ∧
          ∀ name ∈ rest, extendsName first name = true) := by
  have hreachable := Reachable.empty.addAll hnames
  obtain ⟨database, hload, hanswers⟩ := exists_loaded hreachable exporter hread
  refine ⟨database, hload, ?_⟩
  obtain ⟨hfile, htable⟩ := hanswers guid hknown
  obtain ⟨current, hcurrent⟩ := Option.isSome_iff_exists.1 hknown
  rw [hcurrent, hfile, htable]
  exact rowNames_agree_iff hreachable.consistent
    (standing_addAll (not_holds_empty (upper guid)) declarations) hcurrent

/-- The interface under its root came before the runtime class. -/
theorem lookups_agree_uri :
    let guid : Text := "C1D432BA-C824-4452-A7FD-512BC3BBE9A1"
    let query : Text := "c1d432ba-c824-4452-a7fd-512bc3bbe9a1"
    let declarations : List (Text × Text) := [(guid, "ABI.Windows.IUri"), (query, "Windows.Uri")]
    let catalog := Catalog.empty.addAll declarations
    let exporter : Exporter := ⟨"out", 22000, true⟩
    let tree := Tree.empty.put ["db.ini", "work"] (.file (encode (exporter.render catalog .ini)))
    (∀ declaration ∈ declarations, ∀ key stored,
      accept declaration.1 declaration.2 = .ok (key, stored) → FitsLine stored) ∧
    tree.read "db.ini" = .ok (encode (exporter.render catalog .ini)) ∧
    (catalog.nameOf? query).isSome ∧
    ∃ database, Database.load tree "db.ini" = .ok database ∧
      catalog.nameOf? query = database.nameOf? query ∧
      database.nameOf? query = (Registry.ofEntries (rowPairs catalog.entries)).nameOf? query := by
  intro guid query declarations catalog exporter tree
  have hinterface : accept guid "ABI.Windows.IUri" = .ok (guid, "ABI.Windows.IUri") := by
    decide +kernel
  have hclass : accept query "Windows.Uri" = .ok (guid, "Windows.Uri") := by decide +kernel
  have hnames : ∀ declaration ∈ declarations, ∀ key stored,
      accept declaration.1 declaration.2 = .ok (key, stored) → FitsLine stored := by
    intro declaration hdeclaration key stored haccept
    simp only [declarations, List.mem_cons, List.not_mem_nil, or_false] at hdeclaration
    rcases hdeclaration with rfl | rfl
    · cases hinterface.symm.trans haccept
      decide +kernel
    · cases hclass.symm.trans haccept
      decide +kernel
  have hread : tree.read "db.ini" = .ok (encode (exporter.render catalog .ini)) := rfl
  have hknown : (catalog.nameOf? query).isSome := by decide +kernel
  obtain ⟨database, hload, hiff⟩ := lookups_agree_iff hnames exporter hread hknown
  refine ⟨hnames, hread, hknown, database, hload, hiff.2
    ⟨("ABI.Windows.IUri" : Text), [("Windows.Uri" : Text)], ?_, ?_⟩⟩
  · decide +kernel
  · decide +kernel

/-- A shorter name that came first keeps its row. The file has its row first if it sorts first, the
table has it last if it sorts last. -/
theorem lookups_disagree_on_extended_name :
    let guid : Text := "C1D432BA-C824-4452-A7FD-512BC3BBE9A1"
    let other : Text := "AEC22FB8-76F3-4639-9BE0-28EB43A67A2E"
    let declarations : List (Text × Text) :=
      [(guid, "IFoo"), (guid, "Ns.IFoo"), (other, "IBar"), (other, "ABI.IBar")]
    let catalog := Catalog.empty.addAll declarations
    let table := Registry.ofEntries (rowPairs catalog.entries)
    let exporter : Exporter := ⟨"out", 22000, false⟩
    let tree := Tree.empty.put ["db.ini", "work"] (.file (encode (exporter.render catalog .ini)))
    catalog.Reachable FitsLine ∧
    catalog.ambiguity? guid = none ∧ catalog.ambiguity? other = none ∧
    ∃ database, Database.load tree "db.ini" = .ok database ∧
      catalog.nameOf? guid = some ("Ns.IFoo" : Text) ∧
      database.nameOf? guid = some ("IFoo" : Text) ∧
      catalog.nameOf? other = some ("ABI.IBar" : Text) ∧
      table.nameOf? other = some ("IBar" : Text) := by
  intro guid other declarations catalog table exporter tree
  have haccepts : declarations.map (fun declaration => accept declaration.1 declaration.2) =
      declarations.map .ok := by decide +kernel
  have hfits : ∀ declaration ∈ declarations, FitsLine declaration.2 := by decide +kernel
  have hreachable : catalog.Reachable FitsLine := by
    refine Reachable.empty.addAll fun declaration hdeclaration key stored haccept => ?_
    cases (List.map_inj_left.1 haccepts declaration hdeclaration).symm.trans haccept
    exact hfits _ hdeclaration
  have hread : tree.read "db.ini" = .ok (encode (exporter.render catalog .ini)) := rfl
  obtain ⟨database, hload, hanswers⟩ := exists_loaded hreachable exporter hread
  have hguid : (catalog.nameOf? guid).isSome := by decide +kernel
  have hother : (catalog.nameOf? other).isSome := by decide +kernel
  refine ⟨hreachable, by decide +kernel, by decide +kernel, database, hload, by decide +kernel, ?_,
    by decide +kernel, ?_⟩
  · rw [(hanswers guid hguid).1]
    decide +kernel
  · rw [(hanswers other hother).2]
    decide +kernel

end GuidAtlas.Export
