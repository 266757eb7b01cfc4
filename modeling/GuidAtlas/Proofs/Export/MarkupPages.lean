import GuidAtlas.Proofs.Export.IniPage
import GuidAtlas.Proofs.Export.Markup

/-!
The pages of tags read back. A page of interfaces has its rows in the attributes of its elements or
in the cells of its table, with the notes of the ambiguous ones; a page of classes has its groups.
Names may have any characters, those of tags and entities included.
-/

namespace GuidAtlas.Export

open Text Catalog

/-- What a page says about a row. -/
structure Listed where
  guid : Text
  name : Text
  note : Option Text
  deriving DecidableEq

def Listed.ofEntry (row : Entry) : Listed := ⟨row.guid, row.name, row.ambiguity.map ambiguityNote⟩

def listed? (tag : Tag) : Option Listed :=
  if tag.name = "Interface".toList then do
    let guid ← tag.value? "GUID"
    let name ← tag.value? "Name"
    some ⟨guid, name, tag.value? "Warning"⟩
  else none

structure Cell where
  attributes : List (Text × Text)
  text : Text

def cell? (tag : Tag) : Option Cell :=
  if tag.name = "td".toList then some ⟨tag.attributes, unescapeMarkup tag.text⟩ else none

/-- The attributes of the cell with the note of the row below it. -/
def noteAttributes : List (Text × Text) := [("colspan", "2")]

def guidAttributes : List (Text × Text) := [("class", "Guid")]

/-- The rows of a table from its cells. A note is for the row that follows it. -/
def listedCells? : (note : Option Text) → List Cell → Option (List Listed)
  | none, [] => some []
  | some _, [] => none
  | _, [_] => none
  | note, first :: second :: cells =>
    if first.attributes = noteAttributes then
      if note.isNone then listedCells? (some first.text) (second :: cells) else none
    else if first.attributes = guidAttributes ∧ second.attributes = [] then
      (listedCells? none cells).map (⟨first.text, second.text, note⟩ :: ·)
    else none

/-- What a tag says about a group of classes. -/
inductive GroupMark where
  | library (path : Text)
  | member (name : Text)
  deriving DecidableEq

def elementMark? (tag : Tag) : Option GroupMark :=
  if tag.name = "DLL".toList then (tag.value? "Path").map .library
  else if tag.name = "Class".toList then (tag.value? "Name").map .member
  else none

def cellMark? (tag : Tag) : Option GroupMark :=
  if tag.name = "h4".toList then some (.library (unescapeMarkup tag.text))
  else if tag.name = "td".toList ∧ tag.attributes = [] then
    some (.member (unescapeMarkup tag.text))
  else none

/-- The classes before the first library, and the libraries with the classes behind them. -/
def groupsFrom : List GroupMark → List Text × List (Text × List Text)
  | [] => ([], [])
  | .member name :: marks => (name :: (groupsFrom marks).1, (groupsFrom marks).2)
  | .library path :: marks => ([], (path, (groupsFrom marks).1) :: (groupsFrom marks).2)

def readXmlRows (page : Text) : List Listed := (tags page).filterMap listed?

def readHtmlRows? (page : Text) : Option (List Listed) :=
  listedCells? none ((tags page).filterMap cell?)

def readXmlGroups (page : Text) : List Text × List (Text × List Text) :=
  groupsFrom ((tags page).filterMap elementMark?)

def readHtmlGroups (page : Text) : List Text × List (Text × List Text) :=
  groupsFrom ((tags page).filterMap cellMark?)

/-- The marks of a group, as a page has them. -/
def groupMarks (group : ClassGroup) : List GroupMark :=
  .library group.path :: group.classes.map .member

def rowCells (row : Entry) : List Cell :=
  (row.ambiguity.map fun names => ⟨noteAttributes, ambiguityNote names⟩).toList ++
    [⟨guidAttributes, row.guid⟩, ⟨[], row.name⟩]

theorem listedCells?_rowCells (rows : List Entry) :
    listedCells? none (rows.flatMap rowCells) = some (rows.map .ofEntry) := by
  have hne : guidAttributes ≠ noteAttributes := by decide
  induction rows with
  | nil => rfl
  | cons row rows ih =>
      cases h : row.ambiguity with
      | none => simp [rowCells, listedCells?, h, hne, ih, Listed.ofEntry]
      | some names => simp [rowCells, listedCells?, h, hne, ih, Listed.ofEntry]

theorem groupsFrom_groupMarks (groups : List ClassGroup) :
    groupsFrom (groups.flatMap groupMarks) =
      ([], groups.map fun group => (group.path, group.classes)) := by
  have hmembers (names : List Text) (marks : List GroupMark) :
      groupsFrom (names.map .member ++ marks) =
        (names ++ (groupsFrom marks).1, (groupsFrom marks).2) := by
    induction names with
    | nil => rfl
    | cons name names ih => rw [List.map_cons, List.cons_append, groupsFrom, ih]; rfl
  induction groups with
  | nil => rfl
  | cons group groups ih =>
      rw [List.flatMap_cons, groupMarks, List.cons_append, groupsFrom, hmembers, ih,
        List.append_nil, List.map_cons]

theorem fitsAttribute_of_isKey {guid : Text} (h : IsKey guid) :
    FitsAttribute guid ∧ unescapeMarkup guid = guid := by
  have hmark {c : Char} (hc : c ∈ guid) : c ∉ ['<', '>', '"', '&'] := by
    have hguid := Guid.guidChars_induction (p := fun c => !List.elem c ['<', '>', '"', '&'])
      (by decide) h.canonical hc
    simpa using hguid
  exact ⟨⟨fun hc => hmark hc (by decide), fun hc => hmark hc (by decide),
    fun hc => hmark hc (by decide)⟩, unescapeMarkup_eq_self fun hc => hmark hc (by decide)⟩

variable {names : List Text}

theorem name_ne {names : List Text} {name : Text} {tag : Tag} (h : name ∉ names)
    (htag : tag.name ∈ names) : tag.name ≠ name := fun heq => h (heq ▸ htag)

theorem silent_listed? (h : "Interface".toList ∉ names) :
    ∀ tag : Tag, tag.name ∈ names → listed? tag = none :=
  fun _ htag => if_neg (name_ne h htag)

theorem silent_cell? (h : "td".toList ∉ names) :
    ∀ tag : Tag, tag.name ∈ names → cell? tag = none :=
  fun _ htag => if_neg (name_ne h htag)

theorem silent_elementMark? (hlibrary : "DLL".toList ∉ names) (hmember : "Class".toList ∉ names) :
    ∀ tag : Tag, tag.name ∈ names → elementMark? tag = none := fun tag htag => by
  rw [elementMark?, if_neg (name_ne hlibrary htag), if_neg (name_ne hmember htag)]

theorem silent_cellMark? (hlibrary : "h4".toList ∉ names) (hmember : "td".toList ∉ names) :
    ∀ tag : Tag, tag.name ∈ names → cellMark? tag = none := fun tag htag => by
  rw [cellMark?, if_neg (name_ne hlibrary htag), if_neg fun hcell => name_ne hmember htag hcell.1]

def rowAttributes (row : Entry) : List (Text × Text) :=
  ("GUID", row.guid) :: ("Name", escapeMarkup row.name) ::
    (row.ambiguity.map fun names => ("Warning".toList, escapeMarkup (ambiguityNote names))).toList

theorem xmlRow_eq (row : Entry) :
    xmlRow row = "  " ++ tagText "Interface" (rowAttributes row) " /" ++ "\n" := by
  have hguid : ("  <Interface GUID=\"" : Text) =
      "  " ++ '<' :: ("Interface" ++ ' ' :: ("GUID" ++ ['=', '"'])) := rfl
  have hname : ("\" Name=\"" : Text) = '"' :: ' ' :: ("Name" ++ ['=', '"']) := rfl
  have hwarning : (" Warning=\"" : Text) = ' ' :: ("Warning" ++ ['=', '"']) := rfl
  have hquote : ("\"" : Text) = ['"'] := rfl
  have hend : (" />\n" : Text) = " /" ++ '>' :: "\n" := rfl
  unfold xmlRow rowAttributes tagText headText
  cases row.ambiguity <;>
    simp only [hguid, hname, hwarning, hquote, hend, Option.map_none, Option.map_some,
      Option.toList_none, Option.toList_some, List.flatMap_cons, List.flatMap_nil, attributeText,
      List.append_assoc, List.cons_append, List.nil_append]

theorem xmlClassRow_eq (name : Text) :
    xmlClassRow name = "    " ++ tagText "Class" [("Name", escapeMarkup name)] " /" ++ "\n" := by
  have hname : ("    <Class Name=\"" : Text) =
      "    " ++ '<' :: ("Class" ++ ' ' :: ("Name" ++ ['=', '"'])) := rfl
  have hend : ("\" />\n" : Text) = '"' :: (" /" ++ '>' :: "\n") := rfl
  unfold xmlClassRow tagText headText
  simp only [hname, hend, List.flatMap_cons, List.flatMap_nil, attributeText, List.append_assoc,
    List.cons_append, List.nil_append]

theorem classXml_eq (group : ClassGroup) :
    classXml group = "  " ++ tagText "DLL" [("Path", escapeMarkup group.path)] [] ++ "\n" ++
      group.classes.flatMap xmlClassRow ++ "  </DLL>\n" := by
  have hpath : ("  <DLL Path=\"" : Text) =
      "  " ++ '<' :: ("DLL" ++ ' ' :: ("Path" ++ ['=', '"'])) := rfl
  have hend : ("\">\n" : Text) = '"' :: '>' :: "\n" := rfl
  unfold classXml tagText headText
  simp only [hpath, hend, List.flatMap_cons, List.flatMap_nil, attributeText, List.append_assoc,
    List.cons_append, List.nil_append]

theorem fitsTag_row {row : Entry} (hkey : IsKey row.guid) :
    FitsTag "Interface" (rowAttributes row) " /" where
  name := by decide
  key := by
    cases h : row.ambiguity <;> simp only [rowAttributes, h, Option.map, Option.toList] <;>
      simp only [List.forall_mem_cons] <;> decide
  value := by
    have hguid := (fitsAttribute_of_isKey hkey).1
    cases h : row.ambiguity <;>
      simp [rowAttributes, h, hguid, fitsAttribute_escapeMarkup]
  closing := .inr rfl

theorem finds_xmlRow {row : Entry} (hkey : IsKey row.guid) :
    Finds listed? (xmlRow row) [.ofEntry row] := by
  have hplain := (fitsAttribute_of_isKey hkey).2
  have hvalue (tag : Tag) (hname : tag.name = "Interface".toList)
      (hattributes : tag.attributes = (rowAttributes row).map fun pair =>
        (pair.1, unescapeMarkup pair.2)) : listed? tag = some (.ofEntry row) := by
    rw [listed?, if_pos hname, Tag.value?, Tag.value?, Tag.value?, hattributes, rowAttributes,
      Listed.ofEntry]
    cases row.ambiguity with
    | none =>
        show some (Listed.mk (unescapeMarkup row.guid) (unescapeMarkup (escapeMarkup row.name))
          none) = _
        rw [hplain, unescapeMarkup_escapeMarkup]
        rfl
    | some names =>
        show some (Listed.mk (unescapeMarkup row.guid) (unescapeMarkup (escapeMarkup row.name))
          (some (unescapeMarkup (escapeMarkup (ambiguityNote names))))) = _
        rw [hplain, unescapeMarkup_escapeMarkup, unescapeMarkup_escapeMarkup]
        rfl
  rw [xmlRow_eq]
  exact ((finds_text (by decide)).silent_append ((fitsTag_row hkey).finds hvalue)).append_silent
    (finds_text (by decide))

theorem finds_xmlClassRow (name : Text) :
    Finds elementMark? (xmlClassRow name) [.member name] := by
  have hfits : FitsTag "Class" [("Name", escapeMarkup name)] " /" :=
    .single (by decide) (by decide) (fitsAttribute_escapeMarkup name) (.inr rfl)
  have hvalue (tag : Tag) (hname : tag.name = "Class".toList)
      (hattributes : tag.attributes = [("Name".toList, unescapeMarkup (escapeMarkup name))]) :
      elementMark? tag = some (.member name) := by
    rw [elementMark?, hname, if_neg (by decide), if_pos rfl, Tag.value?, hattributes,
      unescapeMarkup_escapeMarkup]
    rfl
  rw [xmlClassRow_eq]
  exact ((finds_text (by decide)).silent_append (hfits.finds hvalue)).append_silent
    (finds_text (by decide))

theorem finds_classXml (group : ClassGroup) :
    Finds elementMark? (classXml group) (groupMarks group) := by
  have hfits : FitsTag "DLL" [("Path", escapeMarkup group.path)] [] :=
    .single (by decide) (by decide) (fitsAttribute_escapeMarkup group.path) (.inl rfl)
  have hvalue (tag : Tag) (hname : tag.name = "DLL".toList)
      (hattributes : tag.attributes = [("Path".toList, unescapeMarkup (escapeMarkup group.path))]) :
      elementMark? tag = some (.library group.path) := by
    rw [elementMark?, if_pos hname, Tag.value?, hattributes, unescapeMarkup_escapeMarkup]
    rfl
  have hmembers : Finds elementMark? (group.classes.flatMap xmlClassRow)
      (group.classes.map .member) := by
    rw [List.map_eq_flatMap]
    exact finds_flatMap fun name _ => finds_xmlClassRow name
  have hclosing : Finds elementMark? ("  </DLL>\n" : Text) [] :=
    finds_silent (@silent_elementMark? ["/DLL"] (by decide) (by decide)) (by decide)
  rw [classXml_eq]
  exact ((((finds_text (by decide)).silent_append (hfits.finds hvalue)).append_silent
    (finds_text (by decide))).append hmembers).append_silent hclosing

/-- The names of tags around the rows of a hypertext page. -/
def plainTags : List Text :=
  ["!DOCTYPE", "html", "/html", "head", "/head", "meta", "title", "/title", "style", "/style",
    "body", "/body", "h1", "/h1", "/h4", "p", "/p", "table", "/table", "tr", "/tr", "th", "/th",
    "/td"]

theorem plainTags_cell? : ∀ tag : Tag, tag.name ∈ plainTags → cell? tag = none :=
  silent_cell? (by decide)

theorem plainTags_cellMark? : ∀ tag : Tag, tag.name ∈ plainTags → cellMark? tag = none :=
  silent_cellMark? (by decide) (by decide)

theorem htmlRow_eq (row : Entry) :
    htmlRow row =
      (match row.ambiguity with
        | some names => "<tr class=\"Warning\">" ++
            elementText "td" noteAttributes (escapeMarkup (ambiguityNote names)) "</td></tr>\n"
        | none => []) ++
        ("<tr>" ++ elementText "td" guidAttributes row.guid "</td>" ++
          elementText "td" [] (escapeMarkup row.name) "</td></tr>\n") := by
  have hnote : ("<tr class=\"Warning\"><td colspan=\"2\">" : Text) =
      "<tr class=\"Warning\">" ++ '<' :: (headText "td" noteAttributes [] ++ ['>']) := rfl
  have hguid : ("<tr><td class=\"Guid\">" : Text) =
      "<tr>" ++ '<' :: (headText "td" guidAttributes [] ++ ['>']) := rfl
  have hname : ("</td><td>" : Text) = "</td>" ++ '<' :: (headText "td" [] [] ++ ['>']) := rfl
  unfold htmlRow elementText
  cases row.ambiguity <;>
    simp only [hnote, hguid, hname, List.append_assoc, List.cons_append, List.nil_append]

def indexAttributes : List (Text × Text) := [("class", "Index")]

theorem htmlClassRow_eq (index : Nat) (name : Text) :
    htmlClassRow (index, name) =
      "<tr>" ++ elementText "td" indexAttributes (decimal index) "</td>" ++
        elementText "td" [] (escapeMarkup name) "</td></tr>\n" := by
  have hindex : ("<tr><td class=\"Index\">" : Text) =
      "<tr>" ++ '<' :: (headText "td" indexAttributes [] ++ ['>']) := rfl
  have hname : ("</td><td>" : Text) = "</td>" ++ '<' :: (headText "td" [] [] ++ ['>']) := rfl
  unfold htmlClassRow elementText
  simp only [hindex, hname, List.append_assoc, List.cons_append, List.nil_append]

theorem classHtml_eq (group : ClassGroup) :
    classHtml group = elementText "h4" [] (escapeMarkup group.path) "</h4>\n<table>\n" ++
      (numbered group.classes).flatMap htmlClassRow ++ "</table>\n" := by
  have hpath : ("<h4>" : Text) = '<' :: (headText "h4" [] [] ++ ['>']) := rfl
  unfold classHtml elementText
  simp only [hpath, List.append_assoc, List.cons_append, List.nil_append]

theorem fitsTag_cell {key value : Text} (hkey : isMarkupName key = true)
    (hvalue : isMarkupName value = true) : FitsTag "td" [(key, value)] [] :=
  .single (by decide) hkey (fitsAttribute_of_isMarkupName hvalue) (.inl rfl)

theorem finds_cell? {pairs : List (Text × Text)} (hfits : FitsTag "td" pairs [])
    (hplain : pairs.map (fun pair => (pair.1, unescapeMarkup pair.2)) = pairs)
    {text content next : Text} (htext : '<' ∉ text) (hcontent : unescapeMarkup text = content)
    (hstart : next.head? = some '<') (hnext : hasOnlyTags plainTags next = true) :
    Finds cell? (elementText "td" pairs text next) [⟨pairs, content⟩] := by
  have hvalue (tag : Tag) (hname : tag.name = "td".toList)
      (hattributes : tag.attributes = pairs.map fun pair => (pair.1, unescapeMarkup pair.2))
      (htag : tag.text = text) : cell? tag = some ⟨pairs, content⟩ := by
    rw [cell?, if_pos hname, hattributes, hplain, htag, hcontent]
  exact hfits.finds_element htext hstart (finds_silent plainTags_cell? hnext) hvalue

theorem finds_htmlRow {row : Entry} (hkey : IsKey row.guid) :
    Finds cell? (htmlRow row) (rowCells row) := by
  obtain ⟨hguid, hplain⟩ := fitsAttribute_of_isKey hkey
  have hopening : Finds cell? ("<tr>" : Text) [] := finds_silent plainTags_cell? (by decide)
  have hguidCell : Finds cell? (elementText "td" guidAttributes row.guid "</td>")
      [⟨guidAttributes, row.guid⟩] :=
    finds_cell? (fitsTag_cell (by decide) (by decide)) rfl hguid.no_less hplain rfl (by decide)
  have hescaped {pairs : List (Text × Text)} (hfits : FitsTag "td" pairs [])
      (hplain : pairs.map (fun pair => (pair.1, unescapeMarkup pair.2)) = pairs) (text : Text) :
      Finds cell? (elementText "td" pairs (escapeMarkup text) "</td></tr>\n") [⟨pairs, text⟩] :=
    finds_cell? hfits hplain (fitsAttribute_escapeMarkup text).no_less
      (unescapeMarkup_escapeMarkup text) rfl (by decide)
  have hrow := (hopening.silent_append hguidCell).append (hescaped (.bare (by decide)) rfl row.name)
  rw [htmlRow_eq, rowCells]
  cases row.ambiguity with
  | none => exact hrow
  | some names =>
      have hwarning : Finds cell? ("<tr class=\"Warning\">" : Text) [] :=
        finds_silent plainTags_cell? (by decide)
      have hnote := hescaped (fitsTag_cell (by decide) (by decide) : FitsTag "td" noteAttributes [])
        rfl (ambiguityNote names)
      exact (hwarning.silent_append hnote).append hrow

theorem map_snd_numbered (items : List Text) : (numbered items).map Prod.snd = items :=
  List.map_snd_zip (by simp)

theorem finds_htmlClassRow (index : Nat) (name : Text) :
    Finds cellMark? (htmlClassRow (index, name)) [.member name] := by
  have hopening : Finds cellMark? ("<tr>" : Text) [] :=
    finds_silent plainTags_cellMark? (by decide)
  have hdigits : '<' ∉ decimal index := fun h => absurd (mem_decimal h) (by decide)
  have hmark {pairs : List (Text × Text)} (tag : Tag) (hname : tag.name = "td".toList)
      (hattributes : tag.attributes = pairs) : cellMark? tag =
        if pairs = [] then some (.member (unescapeMarkup tag.text)) else none := by
    rw [cellMark?, hname, hattributes, if_neg (by decide)]
    simp only [true_and]
  have hindex : Finds cellMark? (elementText "td" indexAttributes (decimal index) "</td>") [] :=
    (fitsTag_cell (by decide) (by decide)).finds_element hdigits rfl
      (finds_silent plainTags_cellMark? (by decide))
      fun tag hname hattributes _ => (hmark tag hname hattributes).trans (if_neg (by simp))
  have hcell : FitsTag "td" [] [] := .bare (by decide)
  have hclosing : Finds cellMark? ("</td></tr>\n" : Text) [] :=
    finds_silent plainTags_cellMark? (by decide)
  have hvalue (tag : Tag) (htag : tag.name = "td".toList) (hattributes : tag.attributes = [])
      (htext : tag.text = escapeMarkup name) : cellMark? tag = some (.member name) := by
    rw [hmark tag htag hattributes, if_pos rfl, htext, unescapeMarkup_escapeMarkup]
  have hmember : Finds cellMark? (elementText "td" [] (escapeMarkup name) "</td></tr>\n")
      [.member name] :=
    hcell.finds_element (fitsAttribute_escapeMarkup name).no_less rfl hclosing hvalue
  rw [htmlClassRow_eq]
  exact (hopening.silent_append hindex).silent_append hmember

theorem finds_classHtml (group : ClassGroup) :
    Finds cellMark? (classHtml group) (groupMarks group) := by
  have hfits : FitsTag "h4" [] [] := .bare (by decide)
  have hopening : Finds cellMark? ("</h4>\n<table>\n" : Text) [] :=
    finds_silent plainTags_cellMark? (by decide)
  have hvalue (tag : Tag) (htag : tag.name = "h4".toList) (_ : tag.attributes = [])
      (htext : tag.text = escapeMarkup group.path) :
      cellMark? tag = some (.library group.path) := by
    rw [cellMark?, if_pos htag, htext, unescapeMarkup_escapeMarkup]
  have hheadline : Finds cellMark?
      (elementText "h4" [] (escapeMarkup group.path) "</h4>\n<table>\n") [.library group.path] :=
    hfits.finds_element (fitsAttribute_escapeMarkup group.path).no_less rfl hopening hvalue
  have hmembers : Finds cellMark? ((numbered group.classes).flatMap htmlClassRow)
      (group.classes.map .member) := by
    have hvalues : group.classes.map GroupMark.member =
        (numbered group.classes).flatMap fun item => [.member item.2] := by
      calc group.classes.map GroupMark.member
          = ((numbered group.classes).map Prod.snd).map .member := by rw [map_snd_numbered]
        _ = _ := by rw [List.map_map, List.map_eq_flatMap]; rfl
    rw [hvalues]
    exact finds_flatMap fun item _ => finds_htmlClassRow item.1 item.2
  have hclosing : Finds cellMark? ("</table>\n" : Text) [] :=
    finds_silent plainTags_cellMark? (by decide)
  rw [classHtml_eq]
  exact (hheadline.append hmembers).append_silent hclosing

/-- The rows of a body are read as they were written, with the line feed that ends the body. -/
theorem finds_bodyText {α β : Type} {f : Tag → Option β} {items : List α} {row : α → Text}
    {rowValues : α → List β}
    (hend : ∀ item ∈ items, EndsLine (row item))
    (hrow : ∀ item ∈ items, Finds f (row item) (rowValues item)) :
    Finds f (bodyText (items.flatMap row) ++ ['\n']) (items.flatMap rowValues) := by
  by_cases hne : items = []
  case pos =>
    subst hne
    exact finds_text (t := ['\n']) (by decide)
  case neg =>
    rw [bodyText_flatMap hne hend]
    exact finds_flatMap hrow

def lineTag (head : Text) : Text := '<' :: (head ++ ['>']) ++ ['\n']

theorem finds_lineTag {β : Type} {f : Tag → Option β} {head : Text} (hless : '<' ∉ head)
    (hgreater : '>' ∉ head) (hvalue : ∀ text, f ⟨head, text⟩ = none) : Finds f (lineTag head) [] :=
  (finds_tag hless hgreater hvalue).append_silent (finds_text (by decide))

theorem xmlFrame_eq (root : Text) (heading : Heading) (body : Text) :
    xmlFrame root heading body =
      lineTag "?xml version=\"1.0\" encoding=\"utf-8\"?" ++
        lineTag ("!-- " ++ heading.title ++ " --") ++
        lineTag ("!-- " ++ heading.comment ++ " --") ++
        (tagText root [] [] ++ ['\n']) ++ (body ++ ['\n']) ++
        (tagText ('/' :: root) [] [] ++ ['\n']) := by
  have hfirst : ("<?xml version=\"1.0\" encoding=\"utf-8\"?>\n<!-- " : Text) =
      '<' :: ("?xml version=\"1.0\" encoding=\"utf-8\"?" ++ '>' :: '\n' :: '<' :: "!-- ") := rfl
  have hsecond : (" -->\n<!-- " : Text) = " --" ++ '>' :: '\n' :: '<' :: "!-- " := rfl
  have hroot : (" -->\n<" : Text) = " --" ++ ['>', '\n', '<'] := rfl
  have hbody : (">\n" : Text) = ['>', '\n'] := rfl
  have hclosing : ("\n</" : Text) = ['\n', '<', '/'] := rfl
  unfold xmlFrame lineTag tagText headText
  simp only [hfirst, hsecond, hroot, hbody, hclosing, List.flatMap_nil, List.append_assoc,
    List.cons_append, List.nil_append]

/-- The frame of a page of elements has none of its rows. -/
theorem finds_xmlFrame {β : Type} {f : Tag → Option β} {root body : Text} {heading : Heading}
    {values : List β}
    (hsilent : ∀ tag : Tag, tag.name ∈ (["?xml", "!--", root, '/' :: root] : List Text) →
      f tag = none)
    (hroot : isMarkupName root = true) (htitle : FitsAttribute heading.title)
    (hcomment : FitsAttribute heading.comment) (hbody : Finds f (body ++ ['\n']) values) :
    Finds f (xmlFrame root heading body) values := by
  have hdeclaration : Finds f (lineTag "?xml version=\"1.0\" encoding=\"utf-8\"?") [] := by
    refine finds_lineTag (by decide) (by decide) fun text => hsilent _ ?_
    have hname : (Tag.mk "?xml version=\"1.0\" encoding=\"utf-8\"?" text).name = "?xml".toList :=
      rfl
    exact hname ▸ List.mem_cons_self
  have hnote {t : Text} (ht : FitsAttribute t) : Finds f (lineTag ("!-- " ++ t ++ " --")) [] := by
    refine finds_lineTag ?_ ?_ fun text => hsilent _ ?_
    · simp [ht.no_less]
    · simp [ht.no_greater]
    · have hname : (Tag.mk ("!-- " ++ t ++ " --") text).name = "!--".toList := rfl
      exact hname ▸ List.mem_cons_of_mem _ List.mem_cons_self
  have hnamed {name : Text} (hname : isMarkupName name = true)
      (hmem : name = root ∨ name = '/' :: root) : Finds f (tagText name [] [] ++ ['\n']) [] := by
    have hnone (tag : Tag) (htag : tag.name = name) : f tag = none := by
      refine hsilent tag ?_
      rw [htag]
      rcases hmem with rfl | rfl <;> simp
    exact ((FitsTag.bare hname).finds fun tag htag _ => hnone tag htag).append_silent
      (finds_text (by decide))
  have hclosing : isMarkupName ('/' :: root) = true := by
    rw [isMarkupName, List.all_cons, Bool.and_eq_true]
    exact ⟨by decide, hroot⟩
  rw [xmlFrame_eq]
  exact ((((hdeclaration.append (hnote htitle)).append (hnote hcomment)).append
    (hnamed hroot (.inl rfl))).silent_append hbody).append_silent (hnamed hclosing (.inr rfl))

theorem htmlFrame_eq (style : List Text) (heading : Heading) (body : Text) :
    htmlFrame style heading body =
      "<!DOCTYPE html>\n<html>\n<head>\n<meta charset=\"utf-8\">\n<title>" ++ heading.title ++
        "</title>\n<style>\n" ++ unlines style ++ "</style>\n</head>\n<body>\n<h1>" ++
        heading.title ++ "</h1>\n<p>" ++ heading.comment ++ "</p>\n" ++ (body ++ ['\n']) ++
        "</body>\n</html>\n" := by
  have hclosing : ("\n</body>\n</html>\n" : Text) = '\n' :: "</body>\n</html>\n" := rfl
  unfold htmlFrame
  simp only [hclosing, List.append_assoc, List.cons_append, List.nil_append]

/-- The frame of a hypertext page has none of its rows. -/
theorem finds_htmlFrame {β : Type} {f : Tag → Option β} {style : List Text} {body : Text}
    {heading : Heading} {values : List β}
    (hsilent : ∀ tag : Tag, tag.name ∈ plainTags → f tag = none) (hstyle : '<' ∉ unlines style)
    (htitle : FitsAttribute heading.title) (hcomment : FitsAttribute heading.comment)
    (hbody : Finds f (body ++ ['\n']) values) :
    Finds f (htmlFrame style heading body) values := by
  have hhead : Finds f
      ("<!DOCTYPE html>\n<html>\n<head>\n<meta charset=\"utf-8\">\n<title>" : Text) [] :=
    finds_silent hsilent (by decide)
  have hstyles : Finds f ("</title>\n<style>\n" : Text) [] :=
    finds_silent hsilent (by decide)
  have hbodies : Finds f ("</style>\n</head>\n<body>\n<h1>" : Text) [] :=
    finds_silent hsilent (by decide)
  have hcomments : Finds f ("</h1>\n<p>" : Text) [] :=
    finds_silent hsilent (by decide)
  have hrows : Finds f ("</p>\n" : Text) [] :=
    finds_silent hsilent (by decide)
  have hend : Finds f ("</body>\n</html>\n" : Text) [] :=
    finds_silent hsilent (by decide)
  rw [htmlFrame_eq]
  exact (((((((((hhead.append (finds_text htitle.no_less)).append hstyles).append
    (finds_text hstyle)).append hbodies).append (finds_text htitle.no_less)).append
    hcomments).append (finds_text hcomment.no_less)).append hrows).silent_append
    hbody).append_silent hend

theorem endsLine_xmlRow (row : Entry) : EndsLine (xmlRow row) := by
  have hend : EndsLine (" />\n" : Text) := ⟨" /", '>', rfl, by decide⟩
  exact hend.prepend _

theorem endsLine_htmlRow (row : Entry) : EndsLine (htmlRow row) := by
  have hend : EndsLine ("</td></tr>\n" : Text) := ⟨"</td></tr", '>', rfl, by decide⟩
  exact hend.prepend _

theorem endsLine_classXml (group : ClassGroup) : EndsLine (classXml group) := by
  have hend : EndsLine ("  </DLL>\n" : Text) := ⟨"  </DLL", '>', rfl, by decide⟩
  exact hend.prepend _

theorem endsLine_classHtml (group : ClassGroup) : EndsLine (classHtml group) := by
  have hend : EndsLine ("</table>\n" : Text) := ⟨"</table", '>', rfl, by decide⟩
  exact hend.prepend _

theorem not_less_styles : '<' ∉ unlines interfaceStyle ∧ '<' ∉ unlines classStyle := by
  decide +kernel

theorem fitsAttribute_escaped (heading : Heading) :
    FitsAttribute heading.escaped.title ∧ FitsAttribute heading.escaped.comment :=
  ⟨fitsAttribute_escapeMarkup heading.title, fitsAttribute_escapeMarkup heading.comment⟩

section Pages

variable (heading : Heading) {rows : List Entry} (groups : List ClassGroup)

theorem readXmlRows_interfacePage (hkeys : ∀ row ∈ rows, IsKey row.guid) :
    readXmlRows (interfacePage .xml heading rows) = rows.map .ofEntry := by
  obtain ⟨htitle, hcomment⟩ := fitsAttribute_escaped heading
  have hbody : Finds listed? (bodyText (rows.flatMap xmlRow) ++ ['\n']) (rows.map .ofEntry) := by
    rw [List.map_eq_flatMap]
    exact finds_bodyText (fun row _ => endsLine_xmlRow row) fun row hrow =>
      finds_xmlRow (hkeys row hrow)
  have hpage : Finds listed?
      (xmlFrame "Interfaces" heading.escaped (bodyText (rows.flatMap xmlRow))) _ :=
    finds_xmlFrame (silent_listed? (by decide)) (by decide) htitle hcomment hbody
  exact hpage.filterMap_tags

theorem readHtmlRows?_interfacePage (hkeys : ∀ row ∈ rows, IsKey row.guid) :
    readHtmlRows? (interfacePage .html heading rows) = some (rows.map .ofEntry) := by
  obtain ⟨htitle, hcomment⟩ := fitsAttribute_escaped heading
  have hrows : Finds cell? (bodyText (rows.flatMap htmlRow) ++ ['\n']) (rows.flatMap rowCells) :=
    finds_bodyText (fun row _ => endsLine_htmlRow row) fun row hrow =>
      finds_htmlRow (hkeys row hrow)
  have habove : Finds cell? ("<table>\n<tr><th>GUID</th><th>Interface</th></tr>\n" : Text) [] :=
    finds_silent plainTags_cell? (by decide)
  have hbelow : Finds cell? ("</table>\n" : Text) [] := finds_silent plainTags_cell? (by decide)
  have htable (above body : Text) : above ++ body ++ "\n</table>" ++ ['\n'] =
      above ++ (body ++ ['\n']) ++ "</table>\n" := by
    have hfeed : ("\n</table>" : Text) ++ ['\n'] = '\n' :: "</table>\n" := rfl
    rw [List.append_assoc _ _ ['\n'], hfeed]
    simp only [List.append_assoc, List.cons_append, List.nil_append]
  have hbody : Finds cell? ("<table>\n<tr><th>GUID</th><th>Interface</th></tr>\n" ++
      bodyText (rows.flatMap htmlRow) ++ "\n</table>" ++ ['\n']) (rows.flatMap rowCells) := by
    rw [htable]
    exact (habove.silent_append hrows).append_silent hbelow
  have hpage : Finds cell? (interfacePage .html heading rows) _ :=
    finds_htmlFrame plainTags_cell? not_less_styles.1 htitle hcomment hbody
  rw [readHtmlRows?, hpage.filterMap_tags, listedCells?_rowCells]

theorem readXmlGroups_classPage :
    readXmlGroups (xmlFrame "ActivatableClasses" heading.escaped
      (bodyText (groups.flatMap classXml))) =
        ([], groups.map fun group => (group.path, group.classes)) := by
  obtain ⟨htitle, hcomment⟩ := fitsAttribute_escaped heading
  have hbody : Finds elementMark? (bodyText (groups.flatMap classXml) ++ ['\n'])
      (groups.flatMap groupMarks) :=
    finds_bodyText (fun group _ => endsLine_classXml group) fun group _ => finds_classXml group
  have hpage : Finds elementMark? (xmlFrame "ActivatableClasses" heading.escaped
      (bodyText (groups.flatMap classXml))) (groups.flatMap groupMarks) :=
    finds_xmlFrame (silent_elementMark? (by decide) (by decide)) (by decide) htitle hcomment hbody
  rw [readXmlGroups, hpage.filterMap_tags, groupsFrom_groupMarks]

theorem readHtmlGroups_classPage :
    readHtmlGroups (htmlFrame classStyle heading.escaped (bodyText (groups.flatMap classHtml))) =
      ([], groups.map fun group => (group.path, group.classes)) := by
  obtain ⟨htitle, hcomment⟩ := fitsAttribute_escaped heading
  have hbody : Finds cellMark? (bodyText (groups.flatMap classHtml) ++ ['\n'])
      (groups.flatMap groupMarks) :=
    finds_bodyText (fun group _ => endsLine_classHtml group) fun group _ => finds_classHtml group
  have hpage : Finds cellMark? (htmlFrame classStyle heading.escaped
      (bodyText (groups.flatMap classHtml))) (groups.flatMap groupMarks) :=
    finds_htmlFrame plainTags_cellMark? not_less_styles.2 htitle hcomment hbody
  rw [readHtmlGroups, hpage.filterMap_tags, groupsFrom_groupMarks]

end Pages

/-- Whatever characters names and paths are made of, pages of elements and pages of cells give back
the rows of a catalog, with a note exactly for those whose GUID is ambiguous, and the groups of
activatable classes. -/
theorem readMarkup_render {catalog : Catalog} (h : catalog.Reachable fun _ => True)
    (exporter : Exporter) (classExporter : ClassExporter) (classes : ActivatableClasses) :
    (∀ format, exporter.render catalog format = filledPage exporter catalog format) ∧
    (readXmlRows (exporter.render catalog .xml) = catalog.entries.map .ofEntry ∧
      readHtmlRows? (exporter.render catalog .html) = some (catalog.entries.map .ofEntry) ∧
      ∀ row ∈ catalog.entries, row.ambiguity = catalog.ambiguity? row.guid) ∧
    (∃ page, filledClassPage? classExporter classes .xml = some page ∧
      classExporter.render classes .xml = .ok page ∧
      readXmlGroups page = ([], classes.groups.map fun group => (group.path, group.classes))) ∧
    ∃ page, filledClassPage? classExporter classes .html = some page ∧
      classExporter.render classes .html = .ok page ∧
      readHtmlGroups page = ([], classes.groups.map fun group => (group.path, group.classes)) := by
  have hkeys : ∀ row ∈ catalog.entries, IsKey row.guid := fun row hrow =>
    (h.consistent.of_lists (mem_entries_iff.1 hrow).1).1
  refine ⟨render_eq_fill exporter catalog,
    ⟨readXmlRows_interfacePage _ hkeys, readHtmlRows?_interfacePage _ hkeys, fun row hrow => ?_⟩,
    ⟨_, (classPage?_eq_filled classExporter classes .xml).symm, rfl,
      readXmlGroups_classPage _ classes.groups⟩,
    ⟨_, (classPage?_eq_filled classExporter classes .html).symm, rfl,
      readHtmlGroups_classPage _ classes.groups⟩⟩
  rw [ambiguity?, (hkeys row hrow).upper_eq]
  exact (mem_entries_iff.1 hrow).2

/-- Names that look like tags, entities and placeholders, and the note of a clash. -/
theorem readMarkup_render_clash :
    let guid : Text := "AEC22FB8-76F3-4639-9BE0-28EB43A67A2E"
    let first : Text := "&amp;lt;b>\n\x7bbody\x7d"
    let second : Text := "</td>\" Name=\"&"
    let catalog := (Catalog.empty.addOrKeep guid first).addOrKeep guid second
    let path : Text := "C:\\\"<h4>.dll"
    let names : List Text := ["A&quot;.B", "A</td>\x7btitle\x7d"]
    let classes := ActivatableClasses.ofPairs (names.reverse.map (path, ·))
    let exporter : Exporter := ⟨"out", 22000, true⟩
    let classExporter : ClassExporter := ⟨"out", 9200⟩
    let note : Option Text := some (ambiguityNote [second, first])
    (catalog.Reachable fun _ => True) ∧
    readXmlRows (exporter.render catalog .xml) = [⟨guid, first, note⟩, ⟨guid, second, note⟩] ∧
    readHtmlRows? (exporter.render catalog .html) =
      some [⟨guid, first, note⟩, ⟨guid, second, note⟩] ∧
    ∃ page, classExporter.render classes .html = .ok page ∧
      readHtmlGroups page = ([], [(path, names)]) := by
  intro guid first second catalog path names classes exporter classExporter note
  have hreachable : catalog.Reachable fun _ => True :=
    .add (.add .empty _ _ fun _ _ _ => trivial) _ _ fun _ _ _ => trivial
  obtain ⟨-, ⟨hxml, hhtml, -⟩, -, page, -, hpage, hgroups⟩ :=
    readMarkup_render hreachable exporter classExporter classes
  have hentries : catalog.entries.map Listed.ofEntry =
      [⟨guid, first, note⟩, ⟨guid, second, note⟩] := by decide +kernel
  have hclasses : classes.groups.map (fun group => (group.path, group.classes)) =
      [(path, names)] := by decide +kernel
  refine ⟨hreachable, ?_, ?_, page, hpage, ?_⟩
  · rw [hxml, hentries]
  · rw [hhtml, hentries]
  · rw [hgroups, hclasses]

end GuidAtlas.Export
