import GuidAtlas.Text.Basic

/-!
Writing texts as JSON strings.
-/

namespace GuidAtlas.Json

open Text

def writtenChar (c : Char) : Text :=
  if c = '"' then "\\\""
  else if c = '\\' then "\\\\"
  else if c = '\x08' then "\\b"
  else if c = '\x0c' then "\\f"
  else if c = '\n' then "\\n"
  else if c = '\r' then "\\r"
  else if c = '\t' then "\\t"
  else if c.toNat < 32 then "\\u" ++ (hexFixed 4 c.toNat).map Char.toLower
  else [c]

def written (t : Text) : Text := '"' :: t.flatMap writtenChar ++ ['"']

end GuidAtlas.Json
