import GuidAtlas.Text.Case

/-!
The file formats of an exported database.
-/

namespace GuidAtlas

open Text

inductive ExportFormat where
  | ini
  | xml
  | html
  | rust
  deriving DecidableEq, Repr

namespace ExportFormat

def all : List ExportFormat := [ini, xml, html, rust]

def name : ExportFormat → Text
  | ini => "ini"
  | xml => "xml"
  | html => "html"
  | rust => "rust"

def extension : ExportFormat → Text
  | ini => "ini"
  | xml => "xml"
  | html => "htm"
  | rust => "rs"

/-- The names of the formats, with the short ones. -/
def ofName? (t : Text) : Option ExportFormat :=
  if t = "ini".toList then some ini
  else if t = "xml".toList then some xml
  else if t = "html".toList || t = "htm".toList then some html
  else if t = "rust".toList || t = "rs".toList then some rust
  else none

def parse? (t : Text) : Option ExportFormat := ofName? (lowerAscii t)

end ExportFormat

end GuidAtlas
