import GuidAtlas.Proofs.Export.Continuation
import GuidAtlas.Proofs.Scan.Accounting

/-!
From the texts of headers to lookups. The names that a scan stores stand on one line of an exported
database, so it can always be read; what is read is what was stored unless a name is continued.
-/

namespace GuidAtlas.Scan

open Text Lookup Storage Export

structure HeaderSource where
  label : Text
  projected : Bool
  text : Text

def HeaderSource.read (source : HeaderSource) : ReadHeader :=
  ⟨source.label, Header.read source.projected source.text⟩

def catalogOf (sources : List HeaderSource) : Catalog :=
  (Report.ofHeaders (sources.map HeaderSource.read)).catalog

theorem catalogOf_eq (sources : List HeaderSource) :
    catalogOf sources =
      (Catalog.empty.addAll (sources.flatMap (·.read.pairs))).addUndocumented := by
  rw [catalogOf, catalog_ofHeaders, List.flatMap_map]

theorem spaced_accept {guid name key stored : Text} (h : Spaced name)
    (haccept : Catalog.accept guid name = .ok (key, stored)) : Spaced stored := by
  simp only [Catalog.accept] at haccept
  repeat' split at haccept
  all_goals cases haccept
  exact h.trimOf _

theorem reachable_catalogOf (sources : List HeaderSource) :
    (catalogOf sources).Reachable Spaced := by
  rw [catalogOf_eq]
  refine .addUndocumented (.addAll .empty fun pair hpair key stored haccept => ?_)
  obtain ⟨source, -, hpair⟩ := List.mem_flatMap.1 hpair
  obtain ⟨declaration, hdeclaration, rfl⟩ := List.mem_map.1 hpair
  exact spaced_accept (Header.spaced_of_mem_declarations hdeclaration) haccept

theorem spaced_undocumented : ∀ name ∈ undocumentedInterfaces.map Prod.snd, Spaced name := by
  decide

theorem not_blank_of_storedName {name : Text} (hname : Catalog.IsStoredName name)
    (hspaced : Spaced name) :
    (∀ c ∈ name.head?, isBlank c = false) ∧ ∀ c ∈ name.getLast?, isBlank c = false := by
  constructor
  · intro c hc
    by_contra hblank
    exact (hname.head_ne c hc).2 (hspaced c (List.mem_of_head? hc) (by simpa using hblank))
  · intro c hc
    by_contra hblank
    exact (hname.last_ne c hc).2 (hspaced c (List.mem_of_getLast? hc) (by simpa using hblank))

theorem not_stop_of_spaced {name : Text} (h : Spaced name) :
    ∀ c ∈ name, Reader.endsLine c = false := by
  intro c hc
  by_contra hstop
  have hbreak : c = '\n' ∨ c = '\r' := by
    rw [Bool.not_eq_false] at hstop
    simpa [Reader.endsLine] using hstop
  rcases hbreak with rfl | rfl <;> exact absurd (h _ hc (by decide)) (by decide)

theorem readableRow_of_reachable {catalog : Catalog} (h : catalog.Reachable Spaced) :
    ∀ row ∈ catalog.entries, ReadableRow row ∧ trim row.name = row.name := by
  intro row hrow
  obtain ⟨hlists, hambiguity⟩ := Catalog.mem_entries_iff.1 hrow
  obtain ⟨hkey, hname, -⟩ := h.consistent.of_lists hlists
  have hspaced := h.allowed_of_lists spaced_undocumented hlists
  obtain ⟨hhead, hlast⟩ := not_blank_of_storedName hname hspaced
  refine ⟨⟨hkey, not_stop_of_spaced hspaced, ?_, fun names hnames name hmem => ?_⟩,
    trimOf_eq_self hhead hlast⟩
  · obtain ⟨c, rest, hcons⟩ := List.exists_cons_of_length_pos
      (Nat.lt_of_lt_of_le Nat.zero_lt_two hname.two_le_length)
    exact ⟨c, rest, hcons, hhead c (by rw [hcons]; rfl)⟩
  · rw [hambiguity] at hnames
    have hlists := (h.consistent.of_clash hnames).2.2 name hmem
    exact not_lf_of_not_stop (not_stop_of_spaced (h.allowed_of_lists spaced_undocumented hlists))

/-- An exported catalog of such names loads, and each query is answered as the rows are read. -/
theorem exists_loaded_rows {catalog : Catalog} (h : catalog.Reachable Spaced) (exporter : Exporter)
    {tree : Tree} {path : Path}
    (hread : tree.read path = .ok (encode (exporter.render catalog .ini))) :
    ∃ database, Database.load tree path = .ok database ∧
      ∀ query, database.nameOf? query =
        ((entriesRead catalog.entries).find? (·.1 = Guid.normalizeKey query)).map (trim ·.2) := by
  have hrows (row : Entry) (hrow : row ∈ catalog.entries) :=
    (readableRow_of_reachable h row hrow).1
  refine ⟨⟨path, indexFirst (trimmedRead catalog.entries)⟩, ?_,
    fun query => get?_indexFirst_read hrows _⟩
  simp only [Database.load, hread, decode?_encode]
  exact ofText_rows (not_lf_of_title exporter) (not_lf_of_comment exporter catalog) hrows path

/-- If no name is continued, the first row of a GUID answers. -/
theorem exists_row_of_whole {catalog : Catalog} (h : catalog.Reachable Spaced)
    (hwhole : ∀ row ∈ catalog.entries, continues row.name = false) {guid : Text}
    (hknown : (catalog.nameOf? guid).isSome) :
    ∃ row ∈ catalog.entries, row.guid = upper guid ∧
      ((entriesRead catalog.entries).find? (·.1 = Guid.normalizeKey guid)).map (trim ·.2) =
        some row.name := by
  obtain ⟨name, hname⟩ := Option.isSome_iff_exists.1 hknown
  have hlists := h.consistent.lists_of_name hname
  have hkey := (h.consistent.of_lists hlists).1
  obtain ⟨known, hmem, hguid, -⟩ := hlists.exists_row
  cases hfound : catalog.entries.find? (·.guid = upper guid) with
  | none => exact absurd hguid (by simpa using List.find?_eq_none.1 hfound known hmem)
  | some row =>
      have hrow := List.mem_of_find?_eq_some hfound
      refine ⟨row, hrow, by simpa using List.find?_some hfound, ?_⟩
      rw [Guid.normalizeKey_of_isCanonical hkey.canonical, entriesRead_eq_rowPairs_iff.2 hwhole,
        rowPairs, List.find?_map]
      have hfirst : catalog.entries.find?
          ((fun entry : Text × Text => decide (entry.1 = upper guid)) ∘
            fun row : Entry => (row.guid, row.name)) = some row := hfound
      rw [hfirst]
      exact congrArg some (readableRow_of_reachable h row hrow).2

/-- The database that is exported after any headers loads and answers as its rows are read. If no
name is continued, every GUID in any letter case is answered with a name that it has a row for. -/
theorem load_catalogOf (sources : List HeaderSource) (exporter : Exporter) {tree : Tree}
    {path : Path}
    (hread : tree.read path = .ok (encode (exporter.render (catalogOf sources) .ini))) :
    ∃ database, Database.load tree path = .ok database ∧
      (∀ query, database.nameOf? query =
        ((entriesRead (catalogOf sources).entries).find? (·.1 = Guid.normalizeKey query)).map
          (trim ·.2)) ∧
      ((∀ row ∈ (catalogOf sources).entries, continues row.name = false) →
        ∀ guid, ((catalogOf sources).nameOf? guid).isSome →
          ∃ row ∈ (catalogOf sources).entries, row.guid = upper guid ∧
            database.nameOf? guid = some row.name) := by
  have hreachable := reachable_catalogOf sources
  obtain ⟨database, hload, hanswers⟩ := exists_loaded_rows hreachable exporter hread
  refine ⟨database, hload, hanswers, fun hwhole guid hknown => ?_⟩
  rw [hanswers]
  exact exists_row_of_whole hreachable hwhole hknown

/-- Backslashes inside of a name and an even number of them at its end do no harm. -/
theorem load_catalogOf_two_headers :
    let guid : Text := "00000001-0002-0003-0000-000000000001"
    let sources : List HeaderSource :=
      [⟨"um/a.h", false, "static const UUID IID_\\A\\\\ = {0x1,0x2,0x3,{0,0,0,0,0,0,0,1}};\n"⟩,
        ⟨"winrt/b.h", true, "MIDL_INTERFACE(\"aec22fb8-76f3-4639-9be0-28eb43a67a2e\")\nIFoo\n"⟩]
    let exporter : Exporter := ⟨"out", 22000, false⟩
    let tree := Tree.empty.put ["db.ini", "work"]
      (.file (encode (exporter.render (catalogOf sources) .ini)))
    tree.read "db.ini" = .ok (encode (exporter.render (catalogOf sources) .ini)) ∧
    (∀ row ∈ (catalogOf sources).entries, continues row.name = false) ∧
    ((catalogOf sources).nameOf? guid).isSome ∧
    ∃ database, Database.load tree "db.ini" = .ok database ∧
      ∃ row ∈ (catalogOf sources).entries, row.guid = guid ∧
        database.nameOf? guid = some row.name := by
  intro guid sources exporter tree
  have hread : tree.read "db.ini" =
      .ok (encode (exporter.render (catalogOf sources) .ini)) := rfl
  obtain ⟨hwhole, hknown⟩ :
      (∀ row ∈ (catalogOf sources).entries, continues row.name = false) ∧
      ((catalogOf sources).nameOf? guid).isSome := by
    decide +kernel
  obtain ⟨database, hload, -, hnames⟩ := load_catalogOf sources exporter hread
  exact ⟨hread, hwhole, hknown, database, hload, hnames hwhole guid hknown⟩

/-- A name that ends in one backslash damages its own row and the one below. -/
theorem lookups_damaged_by_continued_name :
    let first : Text := "00000001-0002-0003-0000-000000000001"
    let second : Text := "00000001-0002-0003-0000-000000000002"
    let sources : List HeaderSource :=
      [⟨"um/a.h", false, "static const UUID IID_A\\ = {0x1,0x2,0x3,{0,0,0,0,0,0,0,1}};\n" ++
        "static const UUID IID_B = {0x1,0x2,0x3,{0,0,0,0,0,0,0,2}};\n"⟩]
    let exporter : Exporter := ⟨"out", 22000, false⟩
    let tree := Tree.empty.put ["db.ini", "work"]
      (.file (encode (exporter.render (catalogOf sources) .ini)))
    (catalogOf sources).nameOf? first = some ("IID_A\\" : Text) ∧
    (catalogOf sources).nameOf? second = some ("IID_B" : Text) ∧
    ∃ database, Database.load tree "db.ini" = .ok database ∧
      database.nameOf? first =
        some ("IID_A00000001-0002-0003-0000-000000000002 = IID_B" : Text) ∧
      database.nameOf? second = none := by
  intro first second sources exporter tree
  have hread : tree.read "db.ini" =
      .ok (encode (exporter.render (catalogOf sources) .ini)) := rfl
  -- One evaluation for all, since the catalog is what takes long.
  obtain ⟨hfirst, hsecond, hdamaged, hlost⟩ :
      (catalogOf sources).nameOf? first = some ("IID_A\\" : Text) ∧
      (catalogOf sources).nameOf? second = some ("IID_B" : Text) ∧
      ((entriesRead (catalogOf sources).entries).find? (·.1 = Guid.normalizeKey first)).map
        (trim ·.2) = some ("IID_A00000001-0002-0003-0000-000000000002 = IID_B" : Text) ∧
      ((entriesRead (catalogOf sources).entries).find? (·.1 = Guid.normalizeKey second)).map
        (trim ·.2) = none := by
    decide +kernel
  obtain ⟨database, hload, hanswers⟩ :=
    exists_loaded_rows (reachable_catalogOf sources) exporter hread
  exact ⟨hfirst, hsecond, database, hload, (hanswers first).trans hdamaged,
    (hanswers second).trans hlost⟩

end GuidAtlas.Scan
