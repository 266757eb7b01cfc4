import GuidAtlas.Export.Writer
import GuidAtlas.Proofs.Text.Digits
import GuidAtlas.Proofs.Text.Search
import GuidAtlas.Proofs.Text.Trim

/-!
Pages as templates whose placeholders are replaced one after the other. The body comes last and the
headings have no braces, so nothing that was filled in is taken for a placeholder: what comes out is
the frame of the page around its body.
-/

namespace GuidAtlas.Export

open Text

/-- No occurrence of `mark` starts in the text, whatever follows it. -/
def Passes (mark t : Text) : Prop :=
  ∀ tail ∈ t.tails, tail ≠ [] → ¬ mark <+: tail ∧ ¬ tail <+: mark

instance (mark t : Text) : Decidable (Passes mark t) :=
  inferInstanceAs (Decidable (∀ tail ∈ t.tails, tail ≠ [] → ¬ mark <+: tail ∧ ¬ tail <+: mark))

theorem passes_cons {mark t : Text} {c : Char} :
    Passes mark (c :: t) ↔ (¬ mark <+: c :: t ∧ ¬ c :: t <+: mark) ∧ Passes mark t := by
  simp [Passes, List.tails]

/-- Whether no brace in a text is opened but before a space, as in style rules. -/
def bracesSpaced : Text → Bool
  | [] => true
  | c :: t => (c ≠ '\x7b' || t.head? = some ' ') && bracesSpaced t

theorem bracesSpaced_of_not_mem {t : Text} (h : '\x7b' ∉ t) : bracesSpaced t = true := by
  induction t with
  | nil => rfl
  | cons c t ih =>
      rw [List.mem_cons, not_or] at h
      simp [bracesSpaced, ih h.2, Ne.symm h.1]

theorem passes_of_bracesSpaced {c : Char} (hc : c ≠ ' ') (mark : Text) {t : Text}
    (h : bracesSpaced t = true) : Passes ('\x7b' :: c :: mark) t := by
  induction t with
  | nil => simp [Passes]
  | cons d t ih =>
      rw [bracesSpaced, Bool.and_eq_true] at h
      refine passes_cons.2 ⟨?_, ih h.2⟩
      cases t with
      | nil =>
          have hd : d ≠ '\x7b' := by simpa using h.1
          simp [hd, hd.symm]
      | cons e t =>
          have hbrace : d = '\x7b' → e = ' ' := by simpa [or_iff_not_imp_left] using h.1
          simp only [List.cons_prefix_cons]
          exact ⟨fun ⟨hd, he, _⟩ => hc (he.trans (hbrace hd.symm)),
            fun ⟨hd, he, _⟩ => hc (he.symm.trans (hbrace hd))⟩

theorem replace_append_of_passes {mark before : Text} (h : Passes mark before) (new t : Text) :
    replace mark new (before ++ t) = before ++ replace mark new t := by
  induction before with
  | nil => rfl
  | cons c before ih =>
      obtain ⟨⟨hmark, hself⟩, hrest⟩ := passes_cons.1 h
      have hstart : mark.isPrefixOf (c :: (before ++ t)) = false := by
        rw [Bool.eq_false_iff, ne_eq, List.isPrefixOf_iff_prefix]
        intro hprefix
        rcases prefix_append_cases (a := c :: before) hprefix with hprefix | ⟨rest, rfl, -⟩
        · exact hmark hprefix
        · exact hself (List.prefix_append _ _)
      have hbefore := ih hrest
      rw [replace] at hbefore ⊢
      rw [List.cons_append, replaceFrom, hstart, if_neg (by simp), hbefore, replace,
        List.cons_append]

theorem replace_mark {d : Char} (mark new t : Text) :
    replace (d :: mark) new (d :: mark ++ t) = new ++ replace (d :: mark) new t := by
  simpa using replace_append (List.not_mem_nil (a := d)) new t

/-- What a template leaves open. -/
inductive Hole where
  | title
  | comment
  | sectionName
  | body
  deriving DecidableEq

def Hole.mark : Hole → Text
  | .title => "\x7btitle\x7d"
  | .comment => "\x7bcomment\x7d"
  | .sectionName => "\x7bsection\x7d"
  | .body => "\x7bbody\x7d"

inductive Piece where
  | text (t : Text)
  | hole (which : Hole)
  deriving DecidableEq

namespace Piece

def written : Piece → Text
  | .text t => t
  | .hole which => which.mark

def put (hole : Hole) (content : Text) : Piece → Piece
  | .text t => .text t
  | .hole which => if which = hole then .text content else .hole which

/-- Whether what stands between the holes cannot be taken for one. -/
def isClear : Piece → Bool
  | .text t => bracesSpaced t
  | .hole _ => true

end Piece

abbrev Template := List Piece

namespace Template

def text (template : Template) : Text := template.flatMap Piece.written

def put (template : Template) (hole : Hole) (content : Text) : Template :=
  template.map (Piece.put hole content)

/-- Replaces the placeholders of a template, that of the body last. -/
def fill (template : Template) (escape : Text → Text) (heading : Heading) (body : Text) : Text :=
  replace Hole.body.mark (bodyText body)
    (replace Hole.sectionName.mark interfaceSection
      (replace Hole.comment.mark (escape heading.comment)
        (replace Hole.title.mark (escape heading.title) template.text)))

def ini : Template :=
  [.text "; ", .hole .title, .text "\n; ", .hole .comment, .text "\n", .text "\n[",
    .hole .sectionName, .text "]\n", .hole .body, .text "\n"]

def classIni : Template :=
  [.text "; ", .hole .title, .text "\n; ", .hole .comment, .text "\n", .hole .body, .text "\n"]

def xml (root : Text) : Template :=
  [.text "<?xml version=\"1.0\" encoding=\"utf-8\"?>\n<!-- ", .hole .title, .text " -->\n<!-- ",
    .hole .comment, .text (" -->\n<" ++ root ++ ">\n"), .hole .body,
    .text ("\n</" ++ root ++ ">\n")]

/-- The template of a hypertext page, with what stands around the rows of its body. -/
def html (style : List Text) (above below : Text) : Template :=
  [.text "<!DOCTYPE html>\n<html>\n<head>\n<meta charset=\"utf-8\">\n<title>", .hole .title,
    .text ("</title>\n<style>\n" ++ unlines style ++ "</style>\n</head>\n<body>\n<h1>"),
    .hole .title, .text "</h1>\n<p>", .hole .comment, .text ("</p>\n" ++ above), .hole .body,
    .text (below ++ "\n</body>\n</html>\n")]

def source : Template :=
  [.text "//! Auto-generated by `gdx scan --format rust`.\n//! Do not edit by hand.\n//!\n//! ",
    .hole .title, .text "\n//! ", .hole .comment,
    .text "\n\n/// `(GUID, interface name)` pairs, sorted by interface name.", .text "\n",
    .text tableOpening, .text "\n", .hole .body, .text "\n", .text tableClosing, .text "\n"]

def ofFormat : ExportFormat → Template
  | .ini => ini
  | .xml => xml "Interfaces"
  | .html =>
    html interfaceStyle "<table>\n<tr><th>GUID</th><th>Interface</th></tr>\n" "\n</table>"
  | .rust => source

def ofClassFormat? : ExportFormat → Option (Template × (ClassGroup → Text))
  | .ini => some (classIni, Export.classIni)
  | .xml => some (xml "ActivatableClasses", classXml)
  | .html => some (html classStyle [] [], classHtml)
  | .rust => none

end Template

def escapeFor : ExportFormat → Text → Text
  | .xml | .html => escapeMarkup
  | .ini | .rust => id

namespace Template

variable {template : Template}

@[simp] theorem text_nil : text [] = [] := rfl

@[simp] theorem put_nil (hole : Hole) (content : Text) : put [] hole content = [] := rfl

@[simp] theorem text_cons (piece : Piece) (template : Template) :
    text (piece :: template) = piece.written ++ text template :=
  List.flatMap_cons

@[simp] theorem put_cons (piece : Piece) (template : Template) (hole : Hole) (content : Text) :
    put (piece :: template) hole content = piece.put hole content :: put template hole content :=
  rfl

theorem passes_mark (hole : Hole) {t : Text} (h : bracesSpaced t = true) : Passes hole.mark t := by
  cases hole <;> exact passes_of_bracesSpaced (by decide) _ h

theorem replace_hole (hole other : Hole) (content t : Text) :
    replace hole.mark content (other.mark ++ t) =
      ((Piece.hole other).put hole content).written ++ replace hole.mark content t := by
  by_cases heq : other = hole
  case pos =>
    rw [heq, Piece.put, if_pos rfl, Piece.written]
    cases hole <;> exact replace_mark _ content t
  case neg =>
    have hpasses : Passes hole.mark other.mark := by
      revert heq
      cases hole <;> cases other <;> decide
    rw [Piece.put, if_neg heq, replace_append_of_passes hpasses, Piece.written]

/-- Replacing a placeholder fills the hole that it marks. -/
theorem replace_text (h : template.all Piece.isClear = true) (hole : Hole) (content : Text) :
    replace hole.mark content template.text = (template.put hole content).text := by
  induction template with
  | nil => rfl
  | cons piece template ih =>
      rw [List.all_cons, Bool.and_eq_true] at h
      rw [text_cons, put_cons, text_cons, ← ih h.2]
      cases piece with
      | text t =>
          exact replace_append_of_passes (passes_mark hole h.1) content (text template)
      | hole other => exact replace_hole hole other content (text template)

theorem isClear_put (h : template.all Piece.isClear = true) (hole : Hole) {content : Text}
    (hcontent : '\x7b' ∉ content) : (template.put hole content).all Piece.isClear = true := by
  rw [put, List.all_map, List.all_eq_true]
  intro piece hpiece
  cases piece with
  | text t => exact List.all_eq_true.1 h _ hpiece
  | hole other =>
      rw [Function.comp_apply, Piece.put]
      split
      · exact bracesSpaced_of_not_mem hcontent
      · rfl

/-- Headings without braces are filled in without a trace of the order of the replacements. -/
theorem fill_eq (h : template.all Piece.isClear = true) {escape : Text → Text} {heading : Heading}
    (htitle : '\x7b' ∉ escape heading.title) (hcomment : '\x7b' ∉ escape heading.comment)
    (body : Text) :
    template.fill escape heading body =
      ((((template.put .title (escape heading.title)).put .comment (escape heading.comment)).put
        .sectionName interfaceSection).put .body (bodyText body)).text := by
  have hsection : '\x7b' ∉ interfaceSection := by decide
  have htitled := isClear_put h .title htitle
  have hcommented := isClear_put htitled .comment hcomment
  have hsectioned := isClear_put hcommented .sectionName hsection
  rw [fill, replace_text h, replace_text htitled, replace_text hcommented, replace_text hsectioned]

end Template

theorem mem_replaceChar {old c : Char} {new t : Text} (h : c ∈ replaceChar old new t) :
    c ∈ new ∨ c ∈ t := by
  obtain ⟨d, hd, hc⟩ := List.mem_flatMap.1 h
  split at hc
  · exact .inl hc
  · exact .inr (List.mem_singleton.1 hc ▸ hd)

theorem not_mem_replaceChar {old c : Char} {new t : Text} (hnew : c ∉ new) (ht : c ∉ t) :
    c ∉ replaceChar old new t :=
  fun h => (mem_replaceChar h).elim hnew ht

theorem not_mem_escapeMarkup {t : Text} (h : '\x7b' ∉ t) : '\x7b' ∉ escapeMarkup t := by
  rw [escapeMarkup]
  repeat' refine not_mem_replaceChar ?_ ?_
  all_goals first | exact h | decide

/-- A heading in which nothing is taken for a placeholder. -/
structure Heading.HasNoBraces (heading : Heading) : Prop where
  title : '\x7b' ∉ heading.title
  comment : '\x7b' ∉ heading.comment

namespace Template

variable {heading : Heading}

theorem fill_ini (h : heading.HasNoBraces) (body : Text) :
    ini.fill id heading body =
      iniComments heading ++ "\n[" ++ interfaceSection ++ "]\n" ++ bodyText body ++ "\n" := by
  rw [fill_eq (by decide) h.title h.comment]
  simp only [ini, put_cons, put_nil, text_cons, text_nil, Piece.put, Piece.written, reduceCtorEq,
    if_true, if_false]
  unfold iniComments
  simp only [List.append_assoc, List.append_nil, id]

theorem fill_classIni (h : heading.HasNoBraces) (body : Text) :
    classIni.fill id heading body = iniComments heading ++ bodyText body ++ "\n" := by
  rw [fill_eq (by decide) h.title h.comment]
  simp only [classIni, put_cons, put_nil, text_cons, text_nil, Piece.put, Piece.written,
    reduceCtorEq, if_true, if_false]
  unfold iniComments
  simp only [List.append_assoc, List.append_nil, id]

theorem fill_xml {root : Text} (hroot : (xml root).all Piece.isClear = true)
    (h : heading.HasNoBraces) (body : Text) :
    (xml root).fill escapeMarkup heading body = xmlFrame root heading.escaped (bodyText body) := by
  rw [fill_eq hroot (not_mem_escapeMarkup h.title) (not_mem_escapeMarkup h.comment)]
  simp only [xml, put_cons, put_nil, text_cons, text_nil, Piece.put, Piece.written, reduceCtorEq,
    if_true, if_false]
  unfold xmlFrame Heading.escaped
  simp only [List.append_assoc, List.append_nil]

theorem fill_html {style : List Text} {above below : Text}
    (hstyle : (html style above below).all Piece.isClear = true) (h : heading.HasNoBraces)
    (body : Text) :
    (html style above below).fill escapeMarkup heading body =
      htmlFrame style heading.escaped (above ++ bodyText body ++ below) := by
  rw [fill_eq hstyle (not_mem_escapeMarkup h.title) (not_mem_escapeMarkup h.comment)]
  simp only [html, put_cons, put_nil, text_cons, text_nil, Piece.put, Piece.written, reduceCtorEq,
    if_true, if_false]
  unfold htmlFrame Heading.escaped
  simp only [List.append_assoc, List.append_nil]

theorem isClear_html :
    (ofFormat .html).all Piece.isClear = true ∧
      (html classStyle [] []).all Piece.isClear = true := by
  decide +kernel

theorem fill_source (h : heading.HasNoBraces) (body : Text) :
    source.fill id heading body = sourceFrame heading (bodyText body) := by
  rw [fill_eq (by decide) h.title h.comment]
  simp only [source, put_cons, put_nil, text_cons, text_nil, Piece.put, Piece.written, reduceCtorEq,
    if_true, if_false]
  unfold sourceFrame
  simp only [List.append_assoc, List.append_nil, id]

end Template

variable {heading : Heading}

theorem interfacePage_eq_fill (h : heading.HasNoBraces) (format : ExportFormat)
    (entries : List Entry) :
    interfacePage format heading entries =
      (Template.ofFormat format).fill (escapeFor format) heading
        (interfaceBody format entries) := by
  cases format with
  | ini => exact (Template.fill_ini h _).symm
  | xml => exact (Template.fill_xml (by decide) h _).symm
  | html => exact (Template.fill_html Template.isClear_html.1 h _).symm
  | rust => exact (Template.fill_source h _).symm

theorem classPage?_eq_fill (h : heading.HasNoBraces) (format : ExportFormat)
    (groups : List ClassGroup) :
    classPage? format heading groups = (Template.ofClassFormat? format).map fun (template, row) =>
      template.fill (escapeFor format) heading (groups.flatMap row) := by
  cases format with
  | ini => exact congrArg some (Template.fill_classIni h _).symm
  | xml => exact congrArg some (Template.fill_xml (by decide) h _).symm
  | html =>
      have hfill : (Template.html classStyle [] []).fill escapeMarkup heading
          (groups.flatMap classHtml) =
            htmlFrame classStyle heading.escaped
              ([] ++ bodyText (groups.flatMap classHtml) ++ []) :=
        Template.fill_html Template.isClear_html.2 h _
      rw [List.nil_append, List.append_nil] at hfill
      exact congrArg some hfill.symm
  | rust => rfl

/-- A text that ends with one line feed and no more. -/
def EndsLine (t : Text) : Prop := ∃ before last, t = before ++ [last] ++ ['\n'] ∧ last ≠ '\n'

theorem EndsLine.prepend {t : Text} (h : EndsLine t) (before : Text) : EndsLine (before ++ t) := by
  obtain ⟨front, last, rfl, hlast⟩ := h
  exact ⟨before ++ front, last, by simp only [List.append_assoc], hlast⟩

/-- The line feed of the last row is the one that the frame puts back. -/
theorem bodyText_flatMap {α : Type} {items : List α} (hne : items ≠ []) {row : α → Text}
    (hrow : ∀ item ∈ items, EndsLine (row item)) :
    bodyText (items.flatMap row) ++ ['\n'] = items.flatMap row := by
  obtain ⟨init, item, rfl⟩ := (List.eq_nil_or_concat' items).resolve_left hne
  obtain ⟨before, last, heq, hlast⟩ := hrow item (by simp)
  have hrows : (init ++ [item]).flatMap row =
      (init.flatMap row ++ before ++ [last]) ++ ['\n'] := by
    simp [heq]
  rw [hrows, bodyText, trimEndOf_append (by simp), trimEndOf_eq_self (by simp [hlast])]

def isHeadingChar (c : Char) : Bool := c.isAlphanum || c = ' ' || c = '-' || c = '(' || c = ')'

theorem isHeadingChar_decimal (n : Nat) : (decimal n).all isHeadingChar = true :=
  List.all_eq_true.2 fun _ hc => List.all_eq_true.1
    (by decide : ("0123456789" : Text).all isHeadingChar = true) _ (mem_decimal hc)

theorem isHeadingChar_releaseOf (build : Nat) : (releaseOf build).all isHeadingChar = true := by
  rw [releaseOf]
  generalize hfind : releases.find? _ = found
  cases found with
  | none => rfl
  | some row =>
      exact (by decide : ∀ row ∈ releases, row.2.all isHeadingChar = true) row
        (List.mem_of_find?_eq_some hfind)

theorem isHeadingChar_windowsVersion (build : Nat) :
    (windowsVersion build).all isHeadingChar = true := by
  unfold windowsVersion
  simp only [List.all_append, isHeadingChar_releaseOf, isHeadingChar_decimal]
  decide

theorem isHeadingChar_title (exporter : Exporter) : exporter.title.all isHeadingChar = true := by
  rw [Exporter.title, setName]
  cases exporter.onlyWinrt <;> decide

theorem isHeadingChar_comment (exporter : Exporter) (catalog : Catalog) :
    (exporter.comment catalog).all isHeadingChar = true := by
  unfold Exporter.comment
  simp only [List.all_append, isHeadingChar_decimal, isHeadingChar_windowsVersion]
  decide

theorem isHeadingChar_classComment (exporter : ClassExporter) (classes : ActivatableClasses) :
    (exporter.comment classes).all isHeadingChar = true := by
  unfold ClassExporter.comment
  simp only [List.all_append, isHeadingChar_decimal, isHeadingChar_windowsVersion]
  decide

theorem not_mem_of_headingChars {t : Text} {c : Char} (h : t.all isHeadingChar = true)
    (hc : isHeadingChar c = false) : c ∉ t := fun hmem =>
  absurd (List.all_eq_true.1 h c hmem) (by simp [hc])

/-- The template of the interfaces with the heading and the body of an exporter filled in. -/
def filledPage (exporter : Exporter) (catalog : Catalog) (format : ExportFormat) : Text :=
  (Template.ofFormat format).fill (escapeFor format) ⟨exporter.title, exporter.comment catalog⟩
    (interfaceBody format catalog.entries)

/-- The template of the activatable classes filled in, if the format has one. -/
def filledClassPage? (exporter : ClassExporter) (classes : ActivatableClasses)
    (format : ExportFormat) : Option Text :=
  (Template.ofClassFormat? format).map fun (template, row) =>
    template.fill (escapeFor format) ⟨classSetName, exporter.comment classes⟩
      (classes.groups.flatMap row)

theorem render_eq_fill (exporter : Exporter) (catalog : Catalog) (format : ExportFormat) :
    exporter.render catalog format = filledPage exporter catalog format :=
  interfacePage_eq_fill
    ⟨not_mem_of_headingChars (isHeadingChar_title exporter) rfl,
      not_mem_of_headingChars (isHeadingChar_comment exporter catalog) rfl⟩ format catalog.entries

theorem classPage?_eq_filled (exporter : ClassExporter) (classes : ActivatableClasses)
    (format : ExportFormat) :
    classPage? format ⟨classSetName, exporter.comment classes⟩ classes.groups =
      filledClassPage? exporter classes format := by
  have htitle : classSetName.all isHeadingChar = true := by decide
  exact classPage?_eq_fill ⟨not_mem_of_headingChars htitle rfl,
    not_mem_of_headingChars (isHeadingChar_classComment exporter classes) rfl⟩ format classes.groups

end GuidAtlas.Export
