import GuidAtlas.Proofs.Export.Agreement
import GuidAtlas.Proofs.Text.Lines
import GuidAtlas.Proofs.Text.Quoted

/-!
The source table read back. Warnings are lines of their own and quoted names stay on theirs, so each
line that is left when the warnings are dropped is a row, and the rows are those of the catalog.
-/

namespace GuidAtlas.Export

open Text Lookup Catalog

variable {catalog : Catalog}

/-- The lines of a page between the one that opens its table and the one that closes it. -/
def tableLines (page : Text) : List Text :=
  (((splitAt '\n' page).dropWhile fun line => !endsWith line "&[").drop 1).takeWhile
    (· ≠ tableClosing)

def isTableRow (line : Text) : Bool := line ≠ [] && !startsWith line "    //"

def readTableRow? (line : Text) : Option (Text × Text) := do
  let t ← afterStart? "    (" line
  let (guid, t) ← unquote? t
  let t ← afterStart? ", " t
  let (name, t) ← unquote? t
  if t = "),".toList then some (guid, name) else none

/-- The rows of the table on a page, if all of them are pairs of quoted texts. -/
def readTable? (page : Text) : Option (List (Text × Text)) :=
  ((tableLines page).filter isTableRow).mapM readTableRow?

/-- The page of the source table, for an alphabet of the characters that show as they are. -/
def sourcePage (shows : Char → Bool) (exporter : Exporter) (catalog : Catalog) : Text :=
  Template.source.fill id ⟨exporter.title, exporter.comment catalog⟩
    (catalog.entries.flatMap (sourceRowBy shows))

def tableRow (shows : Char → Bool) (row : Entry) : Text :=
  "    (" ++ quotedBy shows row.guid ++ ", " ++ quotedBy shows row.name ++ "),"

def tableRowLines (shows : Char → Bool) (row : Entry) : List Text :=
  (match row.ambiguity with
    | some names => ["    // " ++ ambiguityNote names]
    | none => []) ++ [tableRow shows row]

/-- The lines of a table. A table without rows has an empty one. -/
def tableBody (shows : Char → Bool) (rows : List Entry) : List Text :=
  if rows = [] then [[]] else rows.flatMap (tableRowLines shows)

def aboveTable (heading : Heading) : Text :=
  "//! Auto-generated by `gdx scan --format rust`.\n//! Do not edit by hand.\n//!\n//! " ++
    heading.title ++ "\n//! " ++ heading.comment ++
    "\n\n/// `(GUID, interface name)` pairs, sorted by interface name."

theorem sourceRowBy_eq (shows : Char → Bool) (row : Entry) :
    sourceRowBy shows row = unlines (tableRowLines shows row) := by
  have hend : ("),\n" : Text) = ")," ++ ['\n'] := rfl
  have hfeed : ("\n" : Text) = ['\n'] := rfl
  unfold sourceRowBy tableRowLines tableRow
  cases row.ambiguity <;>
    simp only [hend, hfeed, List.nil_append, List.cons_append, unlines_cons, unlines_nil,
      List.append_assoc, List.append_nil]

theorem endsLine_sourceRowBy (shows : Char → Bool) (row : Entry) :
    EndsLine (sourceRowBy shows row) := by
  have hend : EndsLine ("),\n" : Text) := ⟨")", ',', rfl, by decide⟩
  exact hend.prepend _

theorem not_lf_of_quotedBy (shows : Char → Bool) (t : Text) : '\n' ∉ quotedBy shows t := by
  have hhex (n : Nat) : '\n' ∉ lowerHex n := fun h => by
    obtain ⟨d, -, hd⟩ := (isDigits_lowerHex n).digit _ h
    cases hd
  have hchar (c : Char) : '\n' ∉ quotedCharBy shows c := by
    unfold quotedCharBy
    split_ifs with hnul htab hreturn hfeed hquote hslash hshown
    any_goals decide
    · exact fun hmem => hfeed (List.mem_singleton.1 hmem).symm
    · simp [hhex]
  simp [quotedBy, hchar]

theorem not_lf_of_tableRow (shows : Char → Bool) (row : Entry) : '\n' ∉ tableRow shows row := by
  unfold tableRow
  simp only [List.mem_append, not_or]
  exact ⟨⟨⟨⟨by decide, not_lf_of_quotedBy shows _⟩, by decide⟩, not_lf_of_quotedBy shows _⟩,
    by decide⟩

theorem readTableRow?_tableRow (shows : Char → Bool) (row : Entry) :
    readTableRow? (tableRow shows row) = some (row.guid, row.name) := by
  unfold readTableRow? tableRow
  simp only [List.append_assoc, afterStart?_append, Option.bind_eq_bind]
  simp only [Option.bind_some, unquote?_quotedBy, afterStart?_append, if_pos]

theorem isTableRow_tableRow (shows : Char → Bool) (row : Entry) :
    isTableRow (tableRow shows row) = true := rfl

theorem isTableRow_note (names : List Text) :
    isTableRow ("    // " ++ ambiguityNote names) = false := rfl

theorem filter_tableRowLines (shows : Char → Bool) (row : Entry) :
    (tableRowLines shows row).filter isTableRow = [tableRow shows row] := by
  have hrow : [tableRow shows row].filter isTableRow = [tableRow shows row] :=
    List.filter_cons_of_pos (isTableRow_tableRow shows row)
  cases h : row.ambiguity with
  | none => rw [tableRowLines, h, List.nil_append, hrow]
  | some names =>
      rw [tableRowLines, h, List.singleton_append,
        List.filter_cons_of_neg (by simp only [isTableRow_note, Bool.false_eq_true, not_false_iff]),
        hrow]

theorem mapM_readTableRow? (shows : Char → Bool) (rows : List Entry) :
    (rows.map (tableRow shows)).mapM readTableRow? = some (rowPairs rows) := by
  induction rows with
  | nil => rfl
  | cons row rows ih =>
      rw [List.map_cons, List.mapM_cons, readTableRow?_tableRow, ih]
      rfl

theorem filter_tableBody (shows : Char → Bool) (rows : List Entry) :
    (tableBody shows rows).filter isTableRow = rows.map (tableRow shows) := by
  rw [tableBody]
  split
  case isTrue hempty => rw [hempty]; rfl
  case isFalse => simp [List.filter_flatMap, filter_tableRowLines, List.map_eq_flatMap]

theorem bodyText_sourceRows (shows : Char → Bool) (rows : List Entry) :
    bodyText (rows.flatMap (sourceRowBy shows)) ++ ['\n'] = unlines (tableBody shows rows) := by
  rw [tableBody]
  split
  case isTrue hempty => rw [hempty]; rfl
  case isFalse hne =>
    rw [bodyText_flatMap hne fun row _ => endsLine_sourceRowBy shows row, unlines,
      List.flatMap_assoc]
    exact List.flatMap_congr fun row _ => sourceRowBy_eq shows row

theorem sourceFrame_eq (heading : Heading) (body : Text) :
    sourceFrame heading body =
      aboveTable heading ++ '\n' :: (tableOpening ++ '\n' ::
        (body ++ ['\n'] ++ (tableClosing ++ ['\n']))) := by
  have hfeed : ("\n" : Text) = ['\n'] := rfl
  unfold sourceFrame aboveTable
  simp only [hfeed, List.append_assoc, List.cons_append, List.nil_append]

theorem not_mem_aboveTable {heading : Heading} (htitle : '[' ∉ heading.title)
    (hcomment : '[' ∉ heading.comment) : '[' ∉ aboveTable heading := by
  unfold aboveTable
  simp only [List.mem_append, not_or]
  exact ⟨⟨⟨⟨by decide, htitle⟩, by decide⟩, hcomment⟩, by decide⟩

/-- A table is between the first line that opens one and the first line that closes it. -/
theorem tableLines_append {above : Text} (habove : '[' ∉ above) {lines : List Text}
    (hlines : ∀ line ∈ lines, '\n' ∉ line ∧ line ≠ tableClosing) :
    tableLines (above ++ '\n' :: (tableOpening ++ '\n' ::
      (unlines lines ++ (tableClosing ++ ['\n'])))) = lines := by
  have hsplit : splitAt '\n' (tableClosing ++ ['\n']) = [tableClosing, []] := by decide
  have hopening : ∀ line ∈ splitAt '\n' above, (!endsWith line "&[") = true := by
    intro line hline
    rw [Bool.not_eq_true', Bool.eq_false_iff, ne_eq, endsWith, List.isSuffixOf_iff_suffix]
    intro hsuffix
    exact habove ((infix_of_mem_splitAt hline).subset (hsuffix.subset (by decide)))
  have hclosing : ∀ line ∈ lines, decide (line ≠ tableClosing) = true := fun line hline =>
    decide_eq_true (hlines line hline).2
  rw [tableLines, splitAt_append_cons, splitAt_append (by decide),
    splitAt_unlines fun line hline => (hlines line hline).1, hsplit,
    List.dropWhile_append_of_pos hopening, List.dropWhile_cons_of_neg (by decide), List.drop_one,
    List.tail_cons, List.takeWhile_append_of_pos hclosing, List.takeWhile_cons_of_neg (by simp),
    List.append_nil]

theorem of_mem_tableRowLines {shows : Char → Bool} {row : Entry}
    (h : ∀ names, row.ambiguity = some names → ∀ name ∈ names, '\n' ∉ name) :
    ∀ line ∈ tableRowLines shows row, '\n' ∉ line ∧ line ≠ tableClosing := by
  have hrow : '\n' ∉ tableRow shows row ∧ tableRow shows row ≠ tableClosing :=
    ⟨not_lf_of_tableRow shows row, fun heq => by cases heq⟩
  intro line hline
  cases hnames : row.ambiguity with
  | none =>
      rw [tableRowLines, hnames, List.nil_append, List.mem_singleton] at hline
      exact hline ▸ hrow
  | some names =>
      rw [tableRowLines, hnames, List.singleton_append, List.mem_cons, List.mem_singleton] at hline
      rcases hline with rfl | rfl
      · have hnote : '\n' ∉ ("    // " : Text) := by decide
        refine ⟨fun hmem => ?_, fun heq => by cases heq⟩
        exact (List.mem_append.1 hmem).elim hnote (not_lf_of_ambiguityNote (h names hnames))
      · exact hrow

/-- A table is read back row by row, whatever its names are made of besides line feeds. -/
theorem readTable?_sourceFrame {heading : Heading} (htitle : '[' ∉ heading.title)
    (hcomment : '[' ∉ heading.comment) {rows : List Entry}
    (hrows : ∀ row ∈ rows, ∀ names, row.ambiguity = some names → ∀ name ∈ names, '\n' ∉ name)
    (shows : Char → Bool) :
    readTable? (sourceFrame heading (bodyText (rows.flatMap (sourceRowBy shows)))) =
      some (rowPairs rows) := by
  have hbody : ∀ line ∈ tableBody shows rows, '\n' ∉ line ∧ line ≠ tableClosing := by
    intro line hline
    rw [tableBody] at hline
    split at hline
    · rw [List.mem_singleton.1 hline]
      decide
    · obtain ⟨row, hrow, hline⟩ := List.mem_flatMap.1 hline
      exact of_mem_tableRowLines (hrows row hrow) line hline
  rw [readTable?, sourceFrame_eq, bodyText_sourceRows,
    tableLines_append (not_mem_aboveTable htitle hcomment) hbody, filter_tableBody,
    mapM_readTableRow?]

theorem isSome_find?_iff (h : Consistent catalog) (key : Text) :
    ((catalog.entries.reverse.find? (·.guid = key)).map (·.name)).isSome ↔
      (catalog.names.get? key).isSome := by
  rw [Option.isSome_map, List.find?_isSome]
  constructor
  · rintro ⟨row, hrow, hguid⟩
    have hlists := (mem_entries_iff.1 (List.mem_reverse.1 hrow)).1
    exact of_decide_eq_true hguid ▸ (h.of_lists hlists).2.2
  · intro hsome
    obtain ⟨name, hname⟩ := Option.isSome_iff_exists.1 hsome
    obtain ⟨row, hrow, hguid, -⟩ := (h.lists_of_name hname).exists_row
    exact ⟨row, List.mem_reverse.2 hrow, decide_eq_true hguid⟩

/-- Reading the exported source table gives the GUIDs and names of all rows of the catalog, in their
order and whatever characters show as they are. A registry made of what was read answers each query
with the last row of its GUID, in any case, and answers none but the GUIDs of the catalog. -/
theorem readTable?_render (h : catalog.Reachable fun _ => True)
    (hnames : ∀ row ∈ catalog.entries, '\n' ∉ row.name) (exporter : Exporter) :
    exporter.render catalog .rust = sourcePage showsItself exporter catalog ∧
    ∀ shows, ∃ pairs, readTable? (sourcePage shows exporter catalog) = some pairs ∧
      pairs = catalog.entries.map (fun row => (row.guid, row.name)) ∧
      ∀ query, (Registry.ofEntries pairs).nameOf? query =
          (catalog.entries.reverse.find? (·.guid = Guid.normalizeKey query)).map (·.name) ∧
        (((Registry.ofEntries pairs).nameOf? query).isSome ↔
          (catalog.nameOf? (trim query)).isSome) := by
  have hconsistent := h.consistent
  have htitle := isHeadingChar_title exporter
  have hcomment := isHeadingChar_comment exporter catalog
  have hclashes : ∀ row ∈ catalog.entries, ∀ names, row.ambiguity = some names →
      ∀ name ∈ names, '\n' ∉ name := by
    intro row hrow names hambiguity name hname
    rw [(mem_entries_iff.1 hrow).2] at hambiguity
    obtain ⟨other, hother, -, rfl⟩ := ((hconsistent.of_clash hambiguity).2.2 name hname).exists_row
    exact hnames other hother
  refine ⟨render_eq_fill exporter catalog .rust, fun shows =>
    ⟨rowPairs catalog.entries, ?_, rfl, fun query => ?_⟩⟩
  · rw [sourcePage, Template.fill_source
      ⟨not_mem_of_headingChars htitle rfl, not_mem_of_headingChars hcomment rfl⟩]
    exact readTable?_sourceFrame (not_mem_of_headingChars htitle rfl)
      (not_mem_of_headingChars hcomment rfl) hclashes shows
  · have hanswer : (Registry.ofEntries (rowPairs catalog.entries)).nameOf? query = _ :=
      get?_ofEntries_rows (fun row hrow => (hconsistent.of_lists (mem_entries_iff.1 hrow).1).1)
        (Guid.normalizeKey query)
    rw [hanswer]
    exact ⟨rfl, isSome_find?_iff hconsistent (Guid.normalizeKey query)⟩

/-- Names that look like the end of the table, a placeholder or an escape come back. -/
theorem readTable?_render_clash :
    let guid : Text := "AEC22FB8-76F3-4639-9BE0-28EB43A67A2E"
    let query : Text := " aec22fb8-76f3-4639-9be0-28eb43a67a2e\t"
    let first : Text := "];\r\\u\x7b41\x7d\""
    let second : Text := "\x7btitle\x7d\", \"\u0301\x01"
    let catalog := (Catalog.empty.addOrKeep guid (first ++ "x")).addOrKeep guid second
    let exporter : Exporter := ⟨"out", 22000, false⟩
    (catalog.Reachable fun _ => True) ∧ (∀ row ∈ catalog.entries, '\n' ∉ row.name) ∧
    readTable? (exporter.render catalog .rust) = some [(guid, first ++ "x"), (guid, second)] ∧
    (Registry.ofEntries [(guid, first ++ "x"), (guid, second)]).nameOf? query = some second := by
  intro guid query first second catalog exporter
  have hreachable : catalog.Reachable fun _ => True :=
    .add (.add .empty _ _ fun _ _ _ => trivial) _ _ fun _ _ _ => trivial
  have hnames : ∀ row ∈ catalog.entries, '\n' ∉ row.name := by decide +kernel
  obtain ⟨hrender, hread⟩ := readTable?_render hreachable hnames exporter
  obtain ⟨pairs, hpairs, hrows, hanswers⟩ := hread showsItself
  have hentries : catalog.entries.map (fun row => (row.guid, row.name)) =
      [(guid, first ++ "x"), (guid, second)] := by decide +kernel
  refine ⟨hreachable, hnames, ?_, ?_⟩
  · rw [hrender, hpairs, hrows, hentries]
  · rw [← hentries, ← hrows, (hanswers query).1]
    decide +kernel

end GuidAtlas.Export
