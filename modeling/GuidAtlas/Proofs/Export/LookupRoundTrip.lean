import GuidAtlas.Proofs.Export.IniPage

/-!
An exported database answers every query as the rows of its catalog do.
-/

namespace GuidAtlas.Export

open Text Lookup Storage

theorem not_lf_of_title (exporter : Exporter) : '\n' ∉ exporter.title :=
  not_mem_of_headingChars (isHeadingChar_title exporter) rfl

theorem not_lf_of_comment (exporter : Exporter) (catalog : Catalog) :
    '\n' ∉ exporter.comment catalog :=
  not_mem_of_headingChars (isHeadingChar_comment exporter catalog) rfl

theorem plainRow_of_reachable {catalog : Catalog} (h : catalog.Reachable FitsLine) :
    ∀ row ∈ catalog.entries, PlainRow row := by
  intro row hrow
  obtain ⟨hlists, hambiguity⟩ := Catalog.mem_entries_iff.1 hrow
  refine ⟨(h.consistent.of_lists hlists).1, h.allowed_of_lists fitsLine_undocumented hlists, ?_⟩
  intro names hnames name hname
  rw [hambiguity] at hnames
  exact h.allowed_of_lists fitsLine_undocumented ((h.consistent.of_clash hnames).2.2 name hname)

theorem normalizeKey_of_isKey {guid : Text} (h : Catalog.IsKey guid) :
    Guid.normalizeKey guid = guid := by
  rw [Guid.normalizeKey, trim,
    trimOf_eq_self (fun c hc => not_blank_of_isKey h (List.mem_of_head? hc))
      (fun c hc => not_blank_of_isKey h (List.mem_of_getLast? hc)), h.upper_eq]

theorem leadingEntries_map (rows : List (Text × Text)) :
    leadingEntries (rows.map fun row => .entry row.1 row.2) = rows := by
  induction rows with
  | nil => rfl
  | cons row rows ih => rw [List.map_cons, leadingEntries, ih]

/-- The rows of a page, as its reader sees them. -/
def rowPairs (entries : List Entry) : List (Text × Text) :=
  entries.map fun row => (row.guid, row.name)

/-- A page with one section makes a database of the entries that are read of it. -/
theorem ofText_of_readItems {heading : Heading} {entries : List Entry} {pairs : List (Text × Text)}
    (h : readItems (interfacePage .ini heading entries) =
      .ok (.header interfaceSection :: pairs.map fun row => .entry row.1 row.2)) (path : Path) :
    Database.ofText path (interfacePage .ini heading entries) = .ok ⟨path, indexFirst pairs⟩ := by
  have hmark : Database.withoutMark (interfacePage .ini heading entries) =
      interfacePage .ini heading entries := rfl
  have hsection : isDatabaseSection interfaceSection = true := by decide
  rw [Database.ofText, hmark, h]
  simp only [sectionEntries?, hsection, if_true, leadingEntries_map]

theorem ofText_interfacePage {heading : Heading} {entries : List Entry}
    (htitle : '\n' ∉ heading.title) (hcomment : '\n' ∉ heading.comment)
    (h : ∀ row ∈ entries, PlainRow row) (path : Path) :
    Database.ofText path (interfacePage .ini heading entries) =
      .ok ⟨path, indexFirst (rowPairs entries)⟩ := by
  have hrows : entries.map (fun row => Item.entry row.guid row.name) =
      (rowPairs entries).map fun row => .entry row.1 row.2 := by
    simp [rowPairs]
  refine ofText_of_readItems ?_ path
  rw [interfacePage_eq fun row hrow => (h row hrow).name.no_lf,
    readItems_documentText (plain_pageLines htitle hcomment h), items_pageLines h, hrows]

theorem filter_normalizeKey {pairs : List (Text × Text)}
    (h : ∀ pair ∈ pairs, Catalog.IsKey pair.1) (key : Text) :
    pairs.filter (fun pair => Guid.normalizeKey pair.1 = key) = pairs.filter (·.1 = key) :=
  List.filter_congr fun pair hpair => by rw [normalizeKey_of_isKey (h pair hpair)]

theorem isKey_of_mem_rowPairs {entries : List Entry} (h : ∀ row ∈ entries, Catalog.IsKey row.guid) :
    ∀ pair ∈ rowPairs entries, Catalog.IsKey pair.1 :=
  List.forall_mem_map.2 h

theorem get?_indexFirst_rows {entries : List Entry} (h : ∀ row ∈ entries, PlainRow row)
    (key : Text) :
    (indexFirst (rowPairs entries)).get? key = (entries.find? (·.guid = key)).map (·.name) := by
  have hkeys := isKey_of_mem_rowPairs fun row hrow => (h row hrow).key
  rw [get?_indexFirst, ← List.head?_filter, filter_normalizeKey hkeys, List.head?_filter, rowPairs,
    List.find?_map, Option.map_map]
  refine Option.map_congr fun row hrow => ?_
  have hname := (h row (List.mem_of_find?_eq_some hrow)).name
  exact trimOf_eq_self hname.head_not_blank hname.last_not_blank

theorem size_indexFirst_rows {entries : List Entry} (h : ∀ row ∈ entries, PlainRow row) :
    (indexFirst (rowPairs entries)).size = (entries.map (·.guid)).dedup.length := by
  have hkeys : (rowPairs entries).map (Guid.normalizeKey ·.1) = entries.map (·.guid) := by
    rw [rowPairs, List.map_map]
    exact List.map_congr_left fun row hrow => normalizeKey_of_isKey (h row hrow).key
  rw [size_indexFirst, hkeys]

/-- A file that holds an exported catalog loads, has an entry for each GUID of the catalog, and
answers each query with the name of the first row of the GUID. -/
theorem load_rendered {catalog : Catalog} (h : catalog.Reachable FitsLine) (exporter : Exporter)
    {tree : Tree} {path : Path}
    (hread : tree.read path = .ok (encode (exporter.render catalog .ini))) :
    ∃ database, Database.load tree path = .ok database ∧
      database.size = catalog.guidCount ∧
      ∀ query, database.nameOf? query =
        (catalog.entries.find? (·.guid = Guid.normalizeKey query)).map (·.name) := by
  have hplain := plainRow_of_reachable h
  refine ⟨⟨path, indexFirst (rowPairs catalog.entries)⟩, ?_, ?_, fun query => ?_⟩
  · simp only [Database.load, hread, decode?_encode]
    exact ofText_interfacePage (not_lf_of_title exporter) (not_lf_of_comment exporter catalog)
      hplain path
  · rw [Catalog.guidCount_eq_distinct_guids h.consistent]
    exact size_indexFirst_rows hplain
  · exact get?_indexFirst_rows hplain _

/-- The name that is first in the rows answers, although the other one is newer. -/
theorem load_rendered_clash :
    let guid : Text := "AEC22FB8-76F3-4639-9BE0-28EB43A67A2E"
    let catalog := (Catalog.empty.addOrKeep guid "IFirst = ;[#]").addOrKeep guid "ISecond"
    let exporter : Exporter := ⟨"out", 22000, false⟩
    let tree := Tree.empty.put ["db.ini", "work"] (.file (encode (exporter.render catalog .ini)))
    catalog.Reachable FitsLine ∧ tree.read "db.ini" = .ok (encode (exporter.render catalog .ini)) ∧
    ∃ database, Database.load tree "db.ini" = .ok database ∧
      database.size = catalog.guidCount ∧
      database.nameOf? " aec22fb8-76f3-4639-9be0-28eb43a67a2e" = some ("IFirst = ;[#]" : Text) := by
  intro guid catalog exporter tree
  have hfirst : Catalog.accept guid "IFirst = ;[#]" = .ok (guid, "IFirst = ;[#]") := by
    decide +kernel
  have hsecond : Catalog.accept guid "ISecond" = .ok (guid, "ISecond") := by decide +kernel
  have hreachable : catalog.Reachable FitsLine := by
    refine .add (.add .empty _ _ fun key stored h => ?_) _ _ fun key stored h => ?_
    · cases hfirst.symm.trans h
      decide +kernel
    · cases hsecond.symm.trans h
      decide +kernel
  have hread : tree.read "db.ini" = .ok (encode (exporter.render catalog .ini)) := rfl
  obtain ⟨database, hload, hsize, hname⟩ := load_rendered hreachable exporter hread
  refine ⟨hreachable, hread, database, hload, hsize, ?_⟩
  rw [hname]
  decide +kernel

end GuidAtlas.Export
