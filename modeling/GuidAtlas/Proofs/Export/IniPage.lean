import GuidAtlas.Proofs.Catalog.Representation
import GuidAtlas.Proofs.Export.Template
import GuidAtlas.Proofs.Lookup.Document
import GuidAtlas.Proofs.Lookup.Index
import GuidAtlas.Proofs.Text.Utf8

/-!
An exported database as a document of plain lines. Rows are entries, their warnings are comments,
and whatever a name is made of, it stays on its line.
-/

namespace GuidAtlas.Export

open Text Lookup

/-- A name that can stand at the end of a line of a document. -/
structure FitsLine (name : Text) : Prop where
  no_lf : '\n' ∉ name
  no_cr : '\r' ∉ name
  head_not_blank : ∀ c ∈ name.head?, isBlank c = false
  last_not_blank : ∀ c ∈ name.getLast?, isBlank c = false
  last_ne_backslash : name.getLast? ≠ some '\\'

instance (name : Text) : Decidable (FitsLine name) :=
  decidable_of_iff ('\n' ∉ name ∧ '\r' ∉ name ∧ name.head?.all (!isBlank ·) = true ∧
      name.getLast?.all (!isBlank ·) = true ∧ name.getLast? ≠ some '\\')
    ⟨fun ⟨hlf, hcr, hhead, hlast, hslash⟩ =>
        ⟨hlf, hcr, by simpa [Option.all_eq_true] using hhead,
          by simpa [Option.all_eq_true] using hlast, hslash⟩,
      fun ⟨hlf, hcr, hhead, hlast, hslash⟩ =>
        ⟨hlf, hcr, by simpa [Option.all_eq_true] using hhead,
          by simpa [Option.all_eq_true] using hlast, hslash⟩⟩

theorem fitsLine_undocumented : ∀ name ∈ undocumentedInterfaces.map Prod.snd, FitsLine name := by
  decide

def headingLines (heading : Heading) : List DocumentLine :=
  [.comment ';' (' ' :: heading.title), .comment ';' (' ' :: heading.comment), .blank,
    .header interfaceSection]

def noteLines (names : List Text) : List DocumentLine :=
  [.blank, .comment ';' (' ' :: ambiguityNote names)]

def rowLines (row : Entry) : List DocumentLine :=
  (match row.ambiguity with
    | some names => [.blank, .comment ';' (' ' :: ambiguityNote names)]
    | none => []) ++ [.entry (row.guid ++ [' ']) '=' (' ' :: row.name)]

/-- The lines of a page. A page without rows has an empty line for them. -/
def pageLines (heading : Heading) (entries : List Entry) : List DocumentLine :=
  [.comment ';' (' ' :: heading.title), .comment ';' (' ' :: heading.comment), .blank,
    .header interfaceSection] ++ if entries.isEmpty then [.blank] else entries.flatMap rowLines

def endedByLf (lines : List DocumentLine) : List (DocumentLine × LineEnd) :=
  lines.map (·, .lf)

@[simp] theorem documentText_endedByLf (lines : List DocumentLine) :
    documentText (endedByLf lines) = lines.flatMap fun line => line.text ++ ['\n'] := by
  simp [documentText, endedByLf, List.flatMap_map, LineEnd.text]

theorem iniRow_eq (row : Entry) :
    iniRow row = (rowLines row).flatMap fun line => line.text ++ ['\n'] := by
  cases h : row.ambiguity <;> simp [iniRow, rowLines, h, DocumentLine.text]

theorem endsLine_iniRow {row : Entry} (h : '\n' ∉ row.name) : EndsLine (iniRow row) := by
  obtain ⟨before, hbefore⟩ : ∃ before, iniRow row = before ++ (" = " ++ row.name) ++ ['\n'] := by
    cases hrow : row.ambiguity with
    | none => exact ⟨row.guid, by simp [iniRow, hrow]⟩
    | some names =>
        exact ⟨"\n; " ++ ambiguityNote names ++ "\n" ++ row.guid, by simp [iniRow, hrow]⟩
  obtain ⟨init, last, htail⟩ :=
    (List.eq_nil_or_concat' ((" = " : Text) ++ row.name)).resolve_left (by simp)
  refine ⟨before ++ init, last, by rw [hbefore, htail]; simp, ?_⟩
  rintro rfl
  have hmem : '\n' ∈ (" = " : Text) ++ row.name := htail ▸ List.mem_concat_self
  rcases List.mem_append.1 hmem with hmem | hmem
  · exact absurd hmem (by decide)
  · exact h hmem

theorem interfacePage_eq {heading : Heading} {entries : List Entry}
    (h : ∀ row ∈ entries, '\n' ∉ row.name) :
    interfacePage .ini heading entries = documentText (endedByLf (pageLines heading entries)) := by
  rw [documentText_endedByLf]
  by_cases hne : entries = []
  case pos =>
    subst hne
    simp [interfacePage, iniComments, pageLines, DocumentLine.text, interfaceBody, bodyText,
      trimEndOf]
  case neg =>
    have hrows : (entries.flatMap rowLines).flatMap (fun line => line.text ++ ['\n']) =
        bodyText (entries.flatMap iniRow) ++ ['\n'] := by
      rw [bodyText_flatMap hne fun row hrow => endsLine_iniRow (h row hrow), List.flatMap_assoc]
      simp only [← iniRow_eq]
    rw [pageLines, List.flatMap_append, if_neg (by simpa using hne), hrows]
    simp [interfacePage, iniComments, DocumentLine.text, interfaceBody]

/-- What the rows of a page need for each of their lines to be plain. -/
structure PlainRow (row : Entry) : Prop where
  key : Catalog.IsKey row.guid
  name : FitsLine row.name
  ambiguity : ∀ names, row.ambiguity = some names → ∀ name ∈ names, FitsLine name

theorem plain_comment {t : Text} (h : '\n' ∉ t) : (DocumentLine.comment ';' (' ' :: t)).Plain :=
  ⟨.inl rfl, by simpa using h⟩

theorem guidChar_of_isKey {guid : Text} (h : Catalog.IsKey guid) {c : Char} (hc : c ∈ guid) :
    isBlank c = false ∧ Reader.endsKey c = false ∧ c ∉ ['\n', '\r', '\\', ';', '#', '['] := by
  have hguid := Guid.guidChars_induction
    (p := fun c => !isBlank c && !Reader.endsKey c && !(['\n', '\r', '\\', ';', '#', '['].elem c))
    (by decide) h.canonical hc
  simpa [and_assoc] using hguid

theorem plain_rowKey {guid : Text} (h : Catalog.IsKey guid) :
    (∃ c rest, guid ++ [' '] = c :: rest ∧ isBlank c = false ∧ c ∉ [';', '#', '[']) ∧
      Unbroken Reader.endsKey (guid ++ [' ']) := by
  refine ⟨?_, fun c hc => ?_, fun hc => ?_, by simp⟩
  · cases hcons : guid with
    | nil =>
        have hlength := Guid.length_of_isCanonical h.canonical
        rw [hcons] at hlength
        cases hlength
    | cons c rest =>
        obtain ⟨hblank, -, hmarks⟩ := guidChar_of_isKey h (c := c) (by simp [hcons])
        exact ⟨c, rest ++ [' '], rfl, hblank, fun hc => hmarks (by simp at hc ⊢; tauto)⟩
  · rcases List.mem_append.1 hc with hc | hc
    · exact (guidChar_of_isKey h hc).2.1
    · cases List.mem_singleton.1 hc
      rfl
  · rcases List.mem_append.1 hc with hc | hc
    · exact (guidChar_of_isKey h hc).2.2 (by simp)
    · exact absurd hc (by decide)

theorem plain_row {guid name : Text} (hkey : Catalog.IsKey guid) (hname : FitsLine name) :
    (DocumentLine.entry (guid ++ [' ']) '=' (' ' :: name)).Plain := by
  obtain ⟨hhead, hunbroken⟩ := plain_rowKey hkey
  refine ⟨hhead, hunbroken, rfl, ⟨fun c hc => ?_, fun hc => ?_, ?_⟩⟩
  · rcases List.mem_cons.1 hc with rfl | hc
    · rfl
    · have hlf : c ≠ '\n' := fun heq => hname.no_lf (heq ▸ hc)
      have hcr : c ≠ '\r' := fun heq => hname.no_cr (heq ▸ hc)
      simp [Reader.endsLine, hlf, hcr]
  · rcases List.mem_cons.1 hc with heq | hc
    · cases heq
    · exact hname.no_lf hc
  · cases hlast : name.getLast? with
    | none => simp [List.getLast?_cons, hlast]
    | some d =>
        have hd : d ≠ '\\' := fun heq => hname.last_ne_backslash (heq ▸ hlast)
        simpa [List.getLast?_cons, hlast] using hd

theorem not_lf_of_ambiguityNote {names : List Text} (h : ∀ name ∈ names, '\n' ∉ name) :
    '\n' ∉ ambiguityNote names := by
  intro hmem
  rcases List.mem_append.1 hmem with hmem | hmem
  · exact absurd hmem (by decide)
  · rcases mem_join hmem with hmem | ⟨name, hname, hmem⟩
    · exact absurd hmem (by decide)
    · exact h name hname hmem

theorem plain_headingLines {heading : Heading} (htitle : '\n' ∉ heading.title)
    (hcomment : '\n' ∉ heading.comment) : ∀ line ∈ headingLines heading, line.Plain := by
  have hsection : (DocumentLine.header interfaceSection).Plain :=
    ⟨by simpa using List.all_eq_true.1 (by decide : interfaceSection.all (· ≠ ']') = true),
      by decide, by decide⟩
  intro line hline
  simp only [headingLines, List.mem_cons, List.not_mem_nil, or_false] at hline
  rcases hline with rfl | rfl | rfl | rfl
  · exact plain_comment htitle
  · exact plain_comment hcomment
  · trivial
  · exact hsection

theorem plain_noteLines {names : List Text} (h : ∀ name ∈ names, '\n' ∉ name) :
    ∀ line ∈ noteLines names, line.Plain := by
  intro line hline
  simp only [noteLines, List.mem_cons, List.not_mem_nil, or_false] at hline
  rcases hline with rfl | rfl
  · trivial
  · exact plain_comment (not_lf_of_ambiguityNote h)

theorem plain_pageLines {heading : Heading} {entries : List Entry} (htitle : '\n' ∉ heading.title)
    (hcomment : '\n' ∉ heading.comment) (h : ∀ row ∈ entries, PlainRow row) :
    ∀ line ∈ endedByLf (pageLines heading entries), line.1.Plain := by
  intro line hline
  obtain ⟨line, hmem, rfl⟩ := List.mem_map.1 hline
  rcases List.mem_append.1 hmem with hmem | hmem
  · exact plain_headingLines htitle hcomment line hmem
  · split at hmem
    · cases List.mem_singleton.1 hmem
      trivial
    · obtain ⟨row, hrow, hmem⟩ := List.mem_flatMap.1 hmem
      have hplain := h row hrow
      rcases List.mem_append.1 hmem with hmem | hmem
      · cases hnames : row.ambiguity with
        | none => simp [hnames] at hmem
        | some names =>
            rw [hnames] at hmem
            have hnolf (name : Text) (hname : name ∈ names) : '\n' ∉ name :=
              (hplain.ambiguity names hnames name hname).no_lf
            exact plain_noteLines hnolf line hmem
      · cases List.mem_singleton.1 hmem
        exact plain_row hplain.key hplain.name

theorem not_blank_of_isKey {guid : Text} (h : Catalog.IsKey guid) {c : Char} (hc : c ∈ guid) :
    isBlank c = false :=
  (guidChar_of_isKey h hc).1

theorem trim_rowKey {guid : Text} (h : Catalog.IsKey guid) : trim (guid ++ [' ']) = guid := by
  refine @trimOf_append isBlank guid [] [' '] (by simp) (fun c hc => ?_)
    (fun c hc => not_blank_of_isKey h (List.mem_of_head? hc))
    (fun c hc => not_blank_of_isKey h (List.mem_of_getLast? hc))
  cases List.mem_singleton.1 hc
  rfl

theorem trim_rowName {name : Text} (h : FitsLine name) : trim (' ' :: name) = name := by
  have htrim := @trimOf_append isBlank name [' '] [] (by simp; rfl) (by simp) h.head_not_blank
    h.last_not_blank
  rwa [List.append_nil] at htrim

theorem items_rowLines {row : Entry} (h : PlainRow row) :
    (rowLines row).flatMap DocumentLine.items = [.entry row.guid row.name] := by
  cases hrow : row.ambiguity <;>
    simp [rowLines, hrow, DocumentLine.items, trim_rowKey h.key, trim_rowName h.name]

theorem items_pageLines {heading : Heading} {entries : List Entry}
    (h : ∀ row ∈ entries, PlainRow row) :
    (endedByLf (pageLines heading entries)).flatMap (·.1.items) =
      .header interfaceSection :: entries.map fun row => .entry row.guid row.name := by
  have hrows : (entries.flatMap rowLines).flatMap DocumentLine.items =
      entries.map fun row => .entry row.guid row.name := by
    rw [List.flatMap_assoc]
    induction entries with
    | nil => rfl
    | cons row entries ih =>
        rw [List.flatMap_cons, items_rowLines (h row List.mem_cons_self),
          ih fun other hother => h other (List.mem_cons_of_mem _ hother)]
        rfl
  have htrim : trim interfaceSection = interfaceSection := by decide
  rw [endedByLf, List.flatMap_map, pageLines, List.flatMap_append]
  by_cases hne : entries = []
  case pos =>
    subst hne
    simp [DocumentLine.items, htrim]
  case neg =>
    rw [if_neg (by simpa using hne), hrows]
    simp [DocumentLine.items, htrim]

end GuidAtlas.Export
