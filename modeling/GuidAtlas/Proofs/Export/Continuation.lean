import GuidAtlas.Proofs.Export.LookupRoundTrip

/-!
What is read of a page with any names that stand on one line. The reader takes the line break after
a name that ends in an odd number of backslashes along, and with it the row on the next line.
-/

namespace GuidAtlas.Export

open Text Lookup Reader

/-- The value that is read of a name above some rows, and the entries that are left, if `read` is
what is read of these rows alone. The warning of a row keeps it from being taken along. -/
def readAbove (name : Text) (rows : List Entry) (read : List (Text × Text)) :
    Text × List (Text × Text) :=
  if continues name then
    match rows, read with
    | row :: _, (key, value) :: rest =>
      if row.ambiguity.isSome then (name.dropLast, read)
      else (name.dropLast ++ key ++ " = " ++ value, rest)
    | _, _ => (name.dropLast, read)
  else (name, read)

def entriesRead : List Entry → List (Text × Text)
  | [] => []
  | row :: rows =>
    let (value, rest) := readAbove row.name rows (entriesRead rows)
    (row.guid, value) :: rest

theorem readAbove_whole {name : Text} (h : continues name = false) (rows : List Entry)
    (read : List (Text × Text)) : readAbove name rows read = (name, read) := by
  simp [readAbove, h]

theorem readAbove_nil {name : Text} (h : continues name = true) (read : List (Text × Text)) :
    readAbove name [] read = (name.dropLast, read) := by
  simp [readAbove, h]

theorem readAbove_warning {name : Text} (h : continues name = true) {row : Entry}
    (hwarning : row.ambiguity.isSome) (rows : List Entry) (read : List (Text × Text)) :
    readAbove name (row :: rows) read = (name.dropLast, read) := by
  cases read <;> simp [readAbove, h, hwarning]

theorem readAbove_joined {name : Text} (h : continues name = true) {row : Entry}
    (hwarning : row.ambiguity = none) (rows : List Entry) (key value : Text)
    (rest : List (Text × Text)) :
    readAbove name (row :: rows) ((key, value) :: rest) =
      (name.dropLast ++ key ++ " = " ++ value, rest) := by
  simp [readAbove, h, hwarning]

theorem readAbove_cases (name : Text) (rows : List Entry) (read : List (Text × Text)) :
    (continues name = false ∧ readAbove name rows read = (name, read)) ∨
      (continues name = true ∧ (readAbove name rows read).1.length ≠ name.length ∧
        (readAbove name rows read).2 <:+ read) := by
  cases h : continues name with
  | false => exact .inl ⟨rfl, readAbove_whole h rows read⟩
  | true =>
      have hlength : name.dropLast.length + 1 = name.length := by
        obtain ⟨init, rfl, -⟩ := exists_of_continues h
        simp
      have hcut : (name.dropLast, read).1.length ≠ name.length ∧
          (name.dropLast, read).2 <:+ read :=
        ⟨show name.dropLast.length ≠ name.length by omega, List.suffix_rfl⟩
      refine .inr ⟨rfl, ?_⟩
      match rows, read with
      | [], read => rwa [readAbove_nil h]
      | row :: rows, [] => simpa [readAbove, h] using hcut
      | row :: rows, (key, value) :: rest =>
          cases hwarning : row.ambiguity with
          | some names => rwa [readAbove_warning h (by rw [hwarning]; rfl)]
          | none =>
              rw [readAbove_joined h hwarning]
              have hsep : (" = " : Text).length = 3 := rfl
              refine ⟨?_, List.suffix_cons _ _⟩
              simp only [List.length_append, hsep]
              omega

theorem entriesRead_cons (row : Entry) (rows : List Entry) :
    entriesRead (row :: rows) = (row.guid, (readAbove row.name rows (entriesRead rows)).1) ::
      (readAbove row.name rows (entriesRead rows)).2 := rfl

/-- A row on one line that begins with a key, and a warning on one line. -/
structure ReadableRow (row : Entry) : Prop where
  key : Catalog.IsKey row.guid
  not_stop : ∀ c ∈ row.name, endsLine c = false
  head : ∃ c rest, row.name = c :: rest ∧ isBlank c = false
  ambiguity : ∀ names, row.ambiguity = some names → ∀ name ∈ names, '\n' ∉ name

def rowsText (rows : List Entry) : Text := rows.flatMap iniRow

def warningLines (row : Entry) : List DocumentLine :=
  match row.ambiguity with
  | some names => noteLines names
  | none => []

/-- Reading on from a place gives these entries. -/
def Reads (reader : Reader) (read : List (Text × Text)) : Prop :=
  ∀ rounds, reader.rest.length ≤ rounds →
    itemsFrom rounds [] reader.skip = .ok (read.map fun entry => .entry entry.1 (trim entry.2))

variable {row : Entry} {rows : List Entry} {read : List (Text × Text)} {position : Position}
  {name : Text}

theorem not_lf_of_not_stop (h : ∀ c ∈ name, endsLine c = false) : '\n' ∉ name := fun hmem =>
  absurd (h _ hmem) (by decide)

theorem rowsText_cons (row : Entry) (rows : List Entry) :
    rowsText (row :: rows) = documentText (endedByLf (warningLines row)) ++
      ((row.guid ++ [' ']) ++ '=' :: ([' '] ++ (row.name ++ '\n' :: rowsText rows))) := by
  cases h : row.ambiguity <;> simp [rowsText, iniRow, warningLines, noteLines, h, DocumentLine.text]

theorem plain_warningLines (h : ReadableRow row) :
    ∀ line ∈ endedByLf (warningLines row), line.1.Plain := by
  intro line hline
  obtain ⟨line, hmem, rfl⟩ := List.mem_map.1 hline
  rw [warningLines] at hmem
  split at hmem
  case h_1 names hnames => exact plain_noteLines (h.ambiguity names hnames) line hmem
  case h_2 => cases hmem

theorem items_warningLines (row : Entry) :
    (endedByLf (warningLines row)).flatMap (·.1.items) = [] := by
  rw [warningLines]
  split <;> rfl

theorem notIndented_row (h : ReadableRow row) (t : Text) :
    NotIndented ((row.guid ++ [' ']) ++ t) := by
  obtain ⟨⟨c, rest, hkey, hblank, -⟩, -⟩ := plain_rowKey h.key
  rw [hkey]
  intro d hd
  cases hd
  exact ⟨fun heq => by subst heq; contradiction, fun heq => by subst heq; contradiction⟩

theorem notIndented_rowsText (h : ∀ row ∈ rows, ReadableRow row) : NotIndented (rowsText rows) := by
  cases rows with
  | nil => exact notIndented_nil
  | cons row rows =>
      have hrow := h row List.mem_cons_self
      rw [rowsText_cons]
      exact notIndented_documentText (plain_warningLines hrow) (notIndented_row hrow _)

theorem reads_lf (h : NotIndented (rowsText rows)) (hfits : position.Fits ('\n' :: rowsText rows))
    (hrows : ∀ place : Position, place.BeginsLine (rowsText rows) →
      Reads ⟨place, rowsText rows⟩ read) :
    Reads ⟨position, '\n' :: rowsText rows⟩ read := by
  intro rounds hrounds
  have hplace : (position.onto (rowsText rows)).BeginsLine (rowsText rows) :=
    Position.onto_beginsLine (hfits rfl)
  have hskip := skipFrom_lf h position
  rw [skip, hskip]
  exact hrows _ hplace rounds (Nat.le_of_succ_le hrounds)

def ReadsValue (position : Position) (t : Text) (value : Text) (read : List (Text × Text)) : Prop :=
  ∃ stop : Reader, upToFrom endsLine position t = (value, stop) ∧
    stop.rest.length ≤ t.length ∧ Reads stop read

/-- A row is read in two rounds, if its value is read. -/
theorem reads_row (h : ReadableRow row) {value : Text}
    (hvalue : ∀ place : Position, place.Fits (row.name ++ '\n' :: rowsText rows) →
      ReadsValue place (row.name ++ '\n' :: rowsText rows) value read)
    (hplace : position.BeginsLine (rowsText (row :: rows))) :
    Reads ⟨position, rowsText (row :: rows)⟩ ((row.guid, value) :: read) := by
  intro rounds hrounds
  obtain ⟨hhead, hkey⟩ := plain_rowKey h.key
  rw [skip]
  simp only at hrounds ⊢
  rw [rowsText_cons] at hplace hrounds ⊢
  -- The lines of a warning have no entries; then the key takes a round and the value another one.
  obtain ⟨rounds, place, hrounds, hplace, hwarning⟩ := itemsFrom_documentText_append
    (plain_warningLines h) (notIndented_row h _) hrounds hplace
  have hseparator : endsKey '=' = true := rfl
  obtain ⟨before, hitems⟩ := itemsFrom_key hhead hkey hseparator hplace.fits
  have hspace : ∀ c ∈ [' '], (isBlank c && !endsLine c) = true := List.all_eq_true.1 (by decide)
  obtain ⟨c, rest, hname, hblank⟩ := h.head
  obtain ⟨first, hfirst, hread⟩ := readValue_append '=' (t := row.name ++ '\n' :: rowsText rows)
    hspace ⟨c, rest ++ '\n' :: rowsText rows, by rw [hname]; rfl, by simp [hblank]⟩ before
  obtain ⟨stop, hstop, hlength, hmore⟩ := hvalue first hfirst
  simp only [List.length_append, List.length_cons] at hrounds hlength
  obtain ⟨rounds, rfl⟩ := Nat.exists_eq_add_of_le' (show 2 ≤ rounds by omega)
  rw [hwarning, items_warningLines, hitems rounds _ _ hread, hstop, hmore rounds (by omega),
    trim_rowKey h.key]
  rfl

/-- A name that is not continued is its value, and reading goes on with the row on the next line. -/
theorem readsValue_whole (hname : ∀ c ∈ name, endsLine c = false) (hwhole : continues name = false)
    (hindent : NotIndented (rowsText rows))
    (hrows : ∀ place : Position, place.BeginsLine (rowsText rows) →
      Reads ⟨place, rowsText rows⟩ read)
    (hfits : position.Fits (name ++ '\n' :: rowsText rows)) :
    ReadsValue position (name ++ '\n' :: rowsText rows) name read := by
  obtain ⟨place, hplace, heq⟩ := upToFrom_whole hname (not_lf_of_not_stop hname) hwhole position
    ('\n' :: rowsText rows)
  refine ⟨⟨place, '\n' :: rowsText rows⟩, ?_, by simp, reads_lf hindent (hplace hfits) hrows⟩
  rw [heq, upToFrom_stop rfl, List.append_nil]

/-- A name that is continued loses a backslash and takes along what is read on the next line. -/
theorem readsValue_continued (hname : ∀ c ∈ name, endsLine c = false)
    (hcontinues : continues name = true) {t value : Text}
    (ht : ∀ place : Position, place.BeginsLine t → ReadsValue place t value read) :
    ReadsValue position (name ++ '\n' :: t) (name.dropLast ++ value) read := by
  obtain ⟨place, hplace, heq⟩ := upToFrom_continued hname (not_lf_of_not_stop hname) hcontinues
    position t
  obtain ⟨stop, hstop, hlength, hmore⟩ := ht place hplace
  refine ⟨stop, by rw [heq, hstop], ?_, hmore⟩
  rw [List.length_append, List.length_cons]
  omega

/-- The key of a row that is taken along is a part of the value. -/
theorem readsValue_row (h : ReadableRow row) (hwarning : row.ambiguity = none) {value : Text}
    (hvalue : ∀ place : Position, place.Fits (row.name ++ '\n' :: rowsText rows) →
      ReadsValue place (row.name ++ '\n' :: rowsText rows) value read)
    (hfits : position.Fits (rowsText (row :: rows))) :
    ReadsValue position (rowsText (row :: rows)) (row.guid ++ " = " ++ value) read := by
  have htext : rowsText (row :: rows) =
      (row.guid ++ " = ") ++ (row.name ++ '\n' :: rowsText rows) := by
    simp [rowsText_cons, warningLines, hwarning, endedByLf, documentText]
  have hstop : ∀ c ∈ row.guid ++ " = ", endsLine c = false := by
    intro c hc
    rcases List.mem_append.1 hc with hc | hc
    · have hmarks := (guidChar_of_isKey h.key hc).2.2
      simp only [List.mem_cons, not_or] at hmarks
      simp [endsLine, hmarks]
    · simpa using List.all_eq_true.1 (by decide : (" = " : Text).all (!endsLine ·) = true) c hc
  have hwhole : continues (row.guid ++ " = ") = false :=
    continues_eq_false (by simp [List.getLast?_append])
  rw [htext] at hfits ⊢
  obtain ⟨place, hplace, heq⟩ := upToFrom_whole hstop (not_lf_of_not_stop hstop) hwhole position
    (row.name ++ '\n' :: rowsText rows)
  obtain ⟨stop, hread, hlength, hmore⟩ := hvalue place (hplace hfits)
  refine ⟨stop, by rw [heq, hread], ?_, hmore⟩
  rw [List.length_append]
  omega

theorem reads_nil (position : Position) : Reads ⟨position, []⟩ [] := by
  intro rounds _
  cases rounds <;> rfl

theorem readsValue_rows (h : ∀ row ∈ rows, ReadableRow row) (hname : ∀ c ∈ name, endsLine c = false)
    (hfits : position.Fits (name ++ '\n' :: rowsText rows)) :
    ReadsValue position (name ++ '\n' :: rowsText rows)
      (readAbove name rows (entriesRead rows)).1 (readAbove name rows (entriesRead rows)).2 := by
  -- On the rows, for any name: if it is continued, it takes along what is read of the first name.
  induction rows generalizing name position with
  | nil =>
      cases hcontinues : continues name with
      | false =>
          rw [readAbove_whole hcontinues]
          exact readsValue_whole hname hcontinues notIndented_nil (fun place _ => reads_nil place)
            hfits
      | true =>
          rw [readAbove_nil hcontinues, ← List.append_nil name.dropLast]
          exact readsValue_continued hname hcontinues fun place _ =>
            ⟨⟨place, []⟩, rfl, Nat.le_refl _, reads_nil place⟩
  | cons row rows ih =>
      have hrow := h row List.mem_cons_self
      have hvalue (place : Position)
          (hfits : place.Fits (row.name ++ '\n' :: rowsText rows)) :=
        ih (fun other hother => h other (List.mem_cons_of_mem _ hother)) hrow.not_stop hfits
      have hrows (place : Position) (hplace : place.BeginsLine (rowsText (row :: rows))) :
          Reads ⟨place, rowsText (row :: rows)⟩ (entriesRead (row :: rows)) :=
        reads_row hrow hvalue hplace
      cases hcontinues : continues name with
      | false =>
          rw [readAbove_whole hcontinues]
          exact readsValue_whole hname hcontinues (notIndented_rowsText h) hrows hfits
      | true =>
          cases hwarning : row.ambiguity with
          | none =>
              rw [entriesRead_cons, readAbove_joined hcontinues hwarning, List.append_assoc,
                List.append_assoc, ← List.append_assoc row.guid]
              exact readsValue_continued hname hcontinues fun place hplace =>
                readsValue_row hrow hwarning hvalue hplace.fits
          | some names =>
              rw [readAbove_warning hcontinues (by rw [hwarning]; rfl),
                ← List.append_nil name.dropLast]
              -- The warning begins with an empty line, at which the value ends.
              refine readsValue_continued hname hcontinues fun place hplace =>
                ⟨⟨place, rowsText (row :: rows)⟩, ?_, Nat.le_refl _, hrows place hplace⟩
              rw [rowsText_cons, warningLines, hwarning]
              exact upToFrom_stop rfl place _

theorem reads_rows (h : ∀ row ∈ rows, ReadableRow row)
    (hplace : position.BeginsLine (rowsText rows)) :
    Reads ⟨position, rowsText rows⟩ (entriesRead rows) := by
  cases rows with
  | nil => exact reads_nil position
  | cons row rows =>
      have hrow := h row List.mem_cons_self
      exact reads_row hrow (fun place => readsValue_rows (fun other hother =>
        h other (List.mem_cons_of_mem _ hother)) hrow.not_stop) hplace

theorem interfacePage_rows {heading : Heading} (h : ∀ row ∈ rows, ReadableRow row)
    (hne : rows ≠ []) :
    interfacePage .ini heading rows =
      documentText (endedByLf (headingLines heading)) ++ rowsText rows := by
  have hlines : pageLines heading rows = headingLines heading ++ rows.flatMap rowLines := by
    rw [pageLines, if_neg (by simpa using hne)]
    rfl
  rw [interfacePage_eq fun row hrow => not_lf_of_not_stop (h row hrow).not_stop, hlines,
    documentText_endedByLf, documentText_endedByLf, List.flatMap_append, List.flatMap_assoc]
  simp only [← iniRow_eq, rowsText]

theorem readItems_rows {heading : Heading} (htitle : '\n' ∉ heading.title)
    (hcomment : '\n' ∉ heading.comment) (h : ∀ row ∈ rows, ReadableRow row) (hne : rows ≠ []) :
    readItems (interfacePage .ini heading rows) = .ok (.header interfaceSection ::
      (entriesRead rows).map fun entry => .entry entry.1 (trim entry.2)) := by
  have horigin (t : Text) : (Position.onto ⟨0, 0⟩ t).BeginsLine t := Position.onto_beginsLine rfl
  have hplain : ∀ line ∈ endedByLf (headingLines heading), line.1.Plain := by
    intro line hline
    obtain ⟨line, hmem, rfl⟩ := List.mem_map.1 hline
    exact plain_headingLines htitle hcomment line hmem
  obtain ⟨rest, hcons⟩ : ∃ rest, interfacePage .ini heading rows = ';' :: rest := ⟨_, rfl⟩
  have hstart : Reader.start (interfacePage .ini heading rows) =
      skipFrom (Position.onto ⟨0, 0⟩ (interfacePage .ini heading rows))
        (interfacePage .ini heading rows) := by
    rw [hcons, skipFrom_of_not_blank (by rfl), start]
  rw [readItems, hstart, interfacePage_rows h hne]
  obtain ⟨rounds, place, hrounds, hplace, heq⟩ := itemsFrom_documentText_append hplain
    (notIndented_rowsText h) (Nat.le_refl _) (horigin _)
  have hitems : (endedByLf (headingLines heading)).flatMap (·.1.items) =
      [.header interfaceSection] := by
    have htrim : trim interfaceSection = interfaceSection := by decide
    simp [endedByLf, headingLines, DocumentLine.items, htrim]
  have hreads := reads_rows h hplace rounds hrounds
  rw [skip] at hreads
  rw [heq, hreads, hitems]
  rfl

theorem exists_row_of_mem_entriesRead {entry : Text × Text} (h : entry ∈ entriesRead rows) :
    ∃ row ∈ rows, row.guid = entry.1 := by
  induction rows with
  | nil => cases h
  | cons row rows ih =>
      rw [entriesRead_cons] at h
      rcases List.mem_cons.1 h with rfl | h
      · exact ⟨row, List.mem_cons_self, rfl⟩
      · have hmem : entry ∈ entriesRead rows := by
          rcases readAbove_cases row.name rows (entriesRead rows) with ⟨-, heq⟩ | ⟨-, -, hsuffix⟩
          · rwa [heq] at h
          · exact hsuffix.subset h
        obtain ⟨other, hother, hguid⟩ := ih hmem
        exact ⟨other, List.mem_cons_of_mem _ hother, hguid⟩

def trimmedRead (rows : List Entry) : List (Text × Text) :=
  (entriesRead rows).map fun entry => (entry.1, trim entry.2)

theorem get?_indexFirst_read (h : ∀ row ∈ rows, ReadableRow row) (key : Text) :
    (indexFirst (trimmedRead rows)).get? key =
      ((entriesRead rows).find? (·.1 = key)).map (trim ·.2) := by
  have hkeys : ∀ pair ∈ trimmedRead rows, Catalog.IsKey pair.1 := by
    refine List.forall_mem_map.2 fun entry hentry => ?_
    obtain ⟨row, hrow, hguid⟩ := exists_row_of_mem_entriesRead hentry
    exact hguid ▸ (h row hrow).key
  rw [get?_indexFirst, ← List.head?_filter, filter_normalizeKey hkeys, List.head?_filter,
    trimmedRead, List.find?_map, Option.map_map]
  exact congrArg (Option.map · _) (funext fun entry => trimOf_trimOf isBlank entry.2)

/-- The database that is read of a page has the entries that are read of its rows. -/
theorem ofText_rows {heading : Heading} (htitle : '\n' ∉ heading.title)
    (hcomment : '\n' ∉ heading.comment) (h : ∀ row ∈ rows, ReadableRow row) (path : Storage.Path) :
    Database.ofText path (interfacePage .ini heading rows) =
      .ok ⟨path, indexFirst (trimmedRead rows)⟩ := by
  by_cases hne : rows = []
  case pos =>
    subst hne
    exact ofText_interfacePage htitle hcomment (by simp) path
  case neg =>
    have hentries : ((entriesRead rows).map fun entry => Item.entry entry.1 (trim entry.2)) =
        (trimmedRead rows).map fun entry => .entry entry.1 entry.2 := by
      rw [trimmedRead, List.map_map]
      rfl
    exact ofText_of_readItems (hentries ▸ readItems_rows htitle hcomment h hne) path

/-- Every row is read as it stands exactly if no name is continued. -/
theorem entriesRead_eq_rowPairs_iff :
    entriesRead rows = rowPairs rows ↔ ∀ row ∈ rows, continues row.name = false := by
  induction rows with
  | nil => simp [entriesRead, rowPairs]
  | cons row rows ih =>
      have hpairs : rowPairs (row :: rows) = (row.guid, row.name) :: rowPairs rows := rfl
      rw [List.forall_mem_cons, entriesRead_cons, hpairs, ← ih]
      rcases readAbove_cases row.name rows (entriesRead rows) with
        ⟨hwhole, heq⟩ | ⟨hcontinues, hlength, -⟩
      · simp [heq, hwhole]
      · have hvalue : (readAbove row.name rows (entriesRead rows)).1 ≠ row.name :=
          fun heq => hlength (by rw [heq])
        simp [hvalue, hcontinues]

end GuidAtlas.Export
