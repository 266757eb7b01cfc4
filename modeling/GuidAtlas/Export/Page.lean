import GuidAtlas.ActivatableClasses
import GuidAtlas.Catalog
import GuidAtlas.Export.Format
import GuidAtlas.Text.Quoted

/-!
The texts of exported databases. A page is a frame around the rows of its body.
-/

namespace GuidAtlas.Export

open Text

/-- Text that can stand between tags and in attributes. The first replacement leaves the ampersands
of the others alone. -/
def escapeMarkup (t : Text) : Text :=
  replaceChar '"' "&quot;" (replaceChar '>' "&gt;" (replaceChar '<' "&lt;"
    (replaceChar '&' "&amp;" t)))

structure Heading where
  title : Text
  comment : Text

def Heading.escaped (heading : Heading) : Heading :=
  ⟨escapeMarkup heading.title, escapeMarkup heading.comment⟩

/-- Line feeds at the end of a body are left to the frame. -/
def bodyText (body : Text) : Text := trimEndOf (· = '\n') body

def ambiguityNote (names : List Text) : Text :=
  "The following GUID is ambiguous for " ++ join " and " names

def iniRow (entry : Entry) : Text :=
  (match entry.ambiguity with
    | some names => "\n; " ++ ambiguityNote names ++ "\n"
    | none => []) ++ entry.guid ++ " = " ++ entry.name ++ "\n"

def xmlRow (entry : Entry) : Text :=
  "  <Interface GUID=\"" ++ entry.guid ++ "\" Name=\"" ++ escapeMarkup entry.name ++ "\"" ++
    (match entry.ambiguity with
      | some names => " Warning=\"" ++ escapeMarkup (ambiguityNote names) ++ "\""
      | none => []) ++ " />\n"

def htmlRow (entry : Entry) : Text :=
  (match entry.ambiguity with
    | some names =>
      "<tr class=\"Warning\"><td colspan=\"2\">" ++ escapeMarkup (ambiguityNote names) ++
        "</td></tr>\n"
    | none => []) ++
    "<tr><td class=\"Guid\">" ++ entry.guid ++ "</td><td>" ++ escapeMarkup entry.name ++
    "</td></tr>\n"

def sourceRowBy (shows : Char → Bool) (entry : Entry) : Text :=
  (match entry.ambiguity with
    | some names => "    // " ++ ambiguityNote names ++ "\n"
    | none => []) ++
    "    (" ++ quotedBy shows entry.guid ++ ", " ++ quotedBy shows entry.name ++ "),\n"

def sourceRow (entry : Entry) : Text := sourceRowBy showsItself entry

def interfaceBody (format : ExportFormat) (entries : List Entry) : Text :=
  entries.flatMap (match format with
    | .ini => iniRow
    | .xml => xmlRow
    | .html => htmlRow
    | .rust => sourceRow)

def iniComments (heading : Heading) : Text :=
  "; " ++ heading.title ++ "\n; " ++ heading.comment ++ "\n"

def interfaceSection : Text := "All Interfaces"

def xmlFrame (root : Text) (heading : Heading) (body : Text) : Text :=
  "<?xml version=\"1.0\" encoding=\"utf-8\"?>\n<!-- " ++ heading.title ++ " -->\n<!-- " ++
    heading.comment ++ " -->\n<" ++ root ++ ">\n" ++ body ++ "\n</" ++ root ++ ">\n"

def htmlFrame (style : List Text) (heading : Heading) (body : Text) : Text :=
  "<!DOCTYPE html>\n<html>\n<head>\n<meta charset=\"utf-8\">\n<title>" ++ heading.title ++
    "</title>\n<style>\n" ++ unlines style ++ "</style>\n</head>\n<body>\n<h1>" ++
    heading.title ++ "</h1>\n<p>" ++ heading.comment ++ "</p>\n" ++ body ++
    "\n</body>\n</html>\n"

def styleRule (selector declarations : Text) : Text :=
  selector ++ " \x7b " ++ declarations ++ " \x7d"

def bodyStyle : Text := styleRule "body" "font-family: Verdana, sans-serif; font-size: 12px;"

def tableStyle : Text := styleRule "table" "border-collapse: collapse;"

def interfaceStyle : List Text :=
  [bodyStyle, tableStyle,
    styleRule "td, th" "border: 1px solid #ccc; padding: 2px 8px; text-align: left;",
    styleRule "th" "background: #eee;",
    styleRule "td.Guid" "font-family: Consolas, monospace; white-space: nowrap;",
    styleRule "tr.Warning td" "color: #b00; border: none; padding-top: 8px;"]

def classStyle : List Text :=
  [bodyStyle, styleRule "h4" "margin: 16px 0 4px; font-family: Consolas, monospace;", tableStyle,
    styleRule "td" "border: 1px solid #ccc; padding: 2px 8px; text-align: left;",
    styleRule "td.Index" "text-align: right;"]

def tableOpening : Text := "pub(crate) static INTERFACES: &[(&str, &str)] = &["

def tableClosing : Text := "];"

def sourceFrame (heading : Heading) (body : Text) : Text :=
  "//! Auto-generated by `gdx scan --format rust`.\n//! Do not edit by hand.\n//!\n//! " ++
    heading.title ++ "\n//! " ++ heading.comment ++
    "\n\n/// `(GUID, interface name)` pairs, sorted by interface name." ++ "\n" ++ tableOpening ++
    "\n" ++ body ++ "\n" ++ tableClosing ++ "\n"

def interfacePage (format : ExportFormat) (heading : Heading) (entries : List Entry) : Text :=
  let body := bodyText (interfaceBody format entries)
  match format with
  | .ini => iniComments heading ++ "\n[" ++ interfaceSection ++ "]\n" ++ body ++ "\n"
  | .xml => xmlFrame "Interfaces" heading.escaped body
  | .html =>
    htmlFrame interfaceStyle heading.escaped
      ("<table>\n<tr><th>GUID</th><th>Interface</th></tr>\n" ++ body ++ "\n</table>")
  | .rust => sourceFrame heading body

def numbered (items : List Text) : List (Nat × Text) := (List.range' 1 items.length).zip items

def iniClassRow : Nat × Text → Text
  | (index, name) => "Class_" ++ decimal index ++ " = " ++ name ++ "\n"

def xmlClassRow (name : Text) : Text := "    <Class Name=\"" ++ escapeMarkup name ++ "\" />\n"

def htmlClassRow : Nat × Text → Text
  | (index, name) =>
    "<tr><td class=\"Index\">" ++ decimal index ++ "</td><td>" ++ escapeMarkup name ++
      "</td></tr>\n"

def classIni (group : ClassGroup) : Text :=
  "\n[" ++ group.path ++ "]\n" ++ (numbered group.classes).flatMap iniClassRow

def classXml (group : ClassGroup) : Text :=
  "  <DLL Path=\"" ++ escapeMarkup group.path ++ "\">\n" ++
    group.classes.flatMap xmlClassRow ++ "  </DLL>\n"

def classHtml (group : ClassGroup) : Text :=
  "<h4>" ++ escapeMarkup group.path ++ "</h4>\n<table>\n" ++
    (numbered group.classes).flatMap htmlClassRow ++ "</table>\n"

/-- The page of activatable classes; there is no source table for them. -/
def classPage? (format : ExportFormat) (heading : Heading) (groups : List ClassGroup) :
    Option Text :=
  match format with
  | .ini => some (iniComments heading ++ bodyText (groups.flatMap classIni) ++ "\n")
  | .xml =>
    some (xmlFrame "ActivatableClasses" heading.escaped (bodyText (groups.flatMap classXml)))
  | .html => some (htmlFrame classStyle heading.escaped (bodyText (groups.flatMap classHtml)))
  | .rust => none

end GuidAtlas.Export
