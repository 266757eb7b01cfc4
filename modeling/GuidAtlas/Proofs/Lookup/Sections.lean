import GuidAtlas.Proofs.Lookup.Document
import GuidAtlas.Proofs.Lookup.Index
import GuidAtlas.Proofs.Text.Utf8
import Mathlib.Data.List.TakeWhile

/-!
What a database answers that is written in plain lines: the lines below the first header of its
section count, up to the next header, and of those with one key the first.
-/

namespace GuidAtlas.Lookup

open Text Storage

namespace DocumentLine

def opensDatabase : DocumentLine → Bool
  | header name => isDatabaseSection name
  | _ => false

def isHeader : DocumentLine → Bool
  | header _ => true
  | _ => false

/-- The key and the value of a line as they are written. -/
def keyValue? : DocumentLine → Option (Text × Text)
  | entry key _ value => some (key, value)
  | _ => none

end DocumentLine

/-- The lines between the first header of a section of names and the next header. -/
def databaseLines (lines : List DocumentLine) : List DocumentLine :=
  (lines.dropWhile (!·.opensDatabase)).tail.takeWhile (!·.isHeader)

/-- The value in the first line whose key equals the query in normal form. -/
def firstValue? (lines : List DocumentLine) (query : Text) : Option Text :=
  ((lines.filterMap (·.keyValue?)).find? (Guid.normalizeKey ·.1 = Guid.normalizeKey query)).map
    (trim ·.2)

variable {line : DocumentLine} {lines : List DocumentLine}

theorem trim_trim (t : Text) : trim (trim t) = trim t := trimOf_trimOf isBlank t

def trimmed (entry : Text × Text) : Text × Text := (trim entry.1, trim entry.2)

theorem leadingEntries_items (lines : List DocumentLine) :
    leadingEntries (lines.flatMap (·.items)) =
      ((lines.takeWhile (!·.isHeader)).filterMap (·.keyValue?)).map trimmed := by
  induction lines with
  | nil => rfl
  | cons line lines ih =>
      cases line with
      | blank => exact ih
      | comment mark text => exact ih
      | header name => rfl
      | entry key separator value => exact congrArg ((trim key, trim value) :: ·) ih

theorem sectionEntries?_items (lines : List DocumentLine) :
    sectionEntries? isDatabaseSection (lines.flatMap (·.items)) =
      if lines.any (·.opensDatabase) then
        some (((databaseLines lines).filterMap (·.keyValue?)).map trimmed)
      else none := by
  induction lines with
  | nil => rfl
  | cons line lines ih =>
      cases line with
      | blank => exact ih
      | comment mark text => exact ih
      | entry key separator value => exact ih
      | header name =>
          have hitems : sectionEntries? isDatabaseSection
              ((DocumentLine.header name :: lines).flatMap (·.items)) =
                if isDatabaseSection (trim name) then
                  some (leadingEntries (lines.flatMap (·.items)))
                else sectionEntries? isDatabaseSection (lines.flatMap (·.items)) := rfl
          have hname :
              isDatabaseSection (trim name) = (DocumentLine.header name).opensDatabase := by
            rw [isDatabaseSection, trim_trim]
            rfl
          rw [hitems, hname, leadingEntries_items, ih, List.any_cons]
          -- The first header that opens the database decides, whatever stands below its section.
          cases hopens : (DocumentLine.header name).opensDatabase with
          | true => simp [databaseLines, hopens]
          | false => simp [databaseLines, hopens]

theorem databaseLines_eq_nil (h : ∀ line ∈ lines, line.opensDatabase = false) :
    databaseLines lines = [] := by
  have hnone : lines.dropWhile (!·.opensDatabase) = [] := by
    rw [List.dropWhile_eq_nil_iff]
    simpa using h
  rw [databaseLines, hnone]
  rfl

theorem get?_indexFirst_trimmed (lines : List DocumentLine) (query : Text) :
    (indexFirst ((lines.filterMap (·.keyValue?)).map trimmed)).get? (Guid.normalizeKey query) =
      firstValue? lines query := by
  rw [get?_indexFirst, List.find?_map, Option.map_map, firstValue?]
  simp only [Function.comp_def, trimmed, Guid.normalizeKey, trim_trim]
  rfl

theorem ofText_documentText {lines : List (DocumentLine × LineEnd)}
    (hplain : ∀ line ∈ lines, line.1.Plain)
    (hmark : (documentText lines).head? ≠ some '\uFEFF') (path : Path) :
    Database.ofText path (documentText lines) =
      if ∃ line ∈ lines, line.1.opensDatabase then
        .ok ⟨path, indexFirst
          (((databaseLines (lines.map Prod.fst)).filterMap (·.keyValue?)).map trimmed)⟩
      else .error ⟨.missingSection, "[All Interfaces]", some path⟩ := by
  have hwhole : Database.withoutMark (documentText lines) = documentText lines := by
    rw [Database.withoutMark]
    intro rest heq
    exact hmark (by rw [heq]; rfl)
  have hitems : lines.flatMap (·.1.items) = (lines.map Prod.fst).flatMap (·.items) := by
    rw [List.flatMap_map]
  rw [Database.ofText, hwhole, readItems_documentText hplain, hitems]
  simp only [sectionEntries?_items]
  by_cases hopens : ∃ line ∈ lines, line.1.opensDatabase
  case pos =>
    have hany : (lines.map Prod.fst).any (·.opensDatabase) = true := by simpa using hopens
    rw [if_pos hopens, hany]
    rfl
  case neg =>
    have hany : (lines.map Prod.fst).any (·.opensDatabase) = false := by simpa using hopens
    rw [if_neg hopens, hany]
    rfl

/-- A database of plain lines is missing its section exactly if no header opens one. Otherwise it
loads, and a query is answered with the value in the first line of the section whose key equals the
query up to letter case and the white space around it. -/
theorem load_documentText {tree : Tree} {path : Path} {lines : List (DocumentLine × LineEnd)}
    (hplain : ∀ line ∈ lines, line.1.Plain)
    (hmark : (documentText lines).head? ≠ some '\uFEFF')
    (hread : tree.read path = .ok (encode (documentText lines))) :
    (Database.load tree path = .error ⟨.missingSection, "[All Interfaces]", some path⟩ ↔
      ∀ line ∈ lines, line.1.opensDatabase = false) ∧
    ((∃ line ∈ lines, line.1.opensDatabase) →
      ∃ database, Database.load tree path = .ok database ∧ ∀ query,
        database.nameOf? query = firstValue? (databaseLines (lines.map Prod.fst)) query ∧
        database.interfaceName query =
          (firstValue? (databaseLines (lines.map Prod.fst)) query).getD query) ∧
    ∀ query, (Database.query tree path query).1 =
      (firstValue? (databaseLines (lines.map Prod.fst)) query).getD query := by
  have hload : Database.load tree path = Database.ofText path (documentText lines) := by
    simp only [Database.load, hread, decode?_encode]
  rw [ofText_documentText hplain hmark path] at hload
  by_cases hopens : ∃ line ∈ lines, line.1.opensDatabase
  case pos =>
    rw [if_pos hopens] at hload
    have hname (query : Text) := get?_indexFirst_trimmed (databaseLines (lines.map Prod.fst)) query
    refine ⟨?_, fun _ => ⟨_, hload, fun query => ⟨hname query, ?_⟩⟩, fun query => ?_⟩
    · rw [hload]
      obtain ⟨line, hline, hopens⟩ := hopens
      exact iff_of_false (by simp) fun hnone => by simp [hnone line hline] at hopens
    · exact congrArg (·.getD query) (hname query)
    · rw [Database.query, hload]
      exact congrArg (·.getD query) (hname query)
  case neg =>
    rw [if_neg hopens] at hload
    have hnone : ∀ line ∈ lines, line.1.opensDatabase = false := by simpa using hopens
    have hlines : databaseLines (lines.map Prod.fst) = [] :=
      databaseLines_eq_nil (List.forall_mem_map.2 hnone)
    refine ⟨iff_of_true hload hnone, fun h => absurd h hopens, fun query => ?_⟩
    rw [Database.query, hload, hlines]
    rfl

/-- Sections of other names and later ones of the same name do not count, nor do later entries of a
key that is written in another case. -/
theorem load_documentText_repeated :
    let lines : List (DocumentLine × LineEnd) :=
      [(.blank, .crlf), (.comment ';' " [All Interfaces]", .lf), (.header "WinRT Classes", .lf),
        (.entry "b" '=' "Foreign", .crlf), (.header " all INTERFACES ", .lf),
        (.entry "B " '=' " \t", .lf), (.entry "key one" '=' " A=B\\C; D \t", .crlf),
        (.comment '#' "", .lf), (.entry "KEY ONE" '=' "Second", .lf),
        (.header "All Interfaces", .lf), (.entry "c" '=' "Later", .lf)]
    let tree := Tree.empty.put ["db.ini", "work"] (.file (encode (documentText lines)))
    (∀ line ∈ lines, line.1.Plain) ∧ (documentText lines).head? ≠ some '\uFEFF' ∧
    tree.read "db.ini" = .ok (encode (documentText lines)) ∧
    (∃ line ∈ lines, line.1.opensDatabase) ∧
    ∃ database, Database.load tree "db.ini" = .ok database ∧
      database.nameOf? " Key One" = some ("A=B\\C; D" : Text) ∧
      database.nameOf? "b" = some [] ∧ database.interfaceName " c" = " c".toList := by
  intro lines tree
  have hplain : ∀ line ∈ lines, line.1.Plain := by decide +kernel
  have hmark : (documentText lines).head? ≠ some '\uFEFF' := by decide +kernel
  have hread : tree.read "db.ini" = .ok (encode (documentText lines)) := rfl
  have hopens : ∃ line ∈ lines, line.1.opensDatabase := by decide +kernel
  obtain ⟨database, hload, hanswers⟩ := (load_documentText hplain hmark hread).2.1 hopens
  refine ⟨hplain, hmark, hread, hopens, database, hload, ?_, ?_, ?_⟩
  · exact (hanswers " Key One").1.trans (by decide +kernel)
  · exact (hanswers "b").1.trans (by decide +kernel)
  · exact (hanswers " c").2.trans (by decide +kernel)

end GuidAtlas.Lookup
