import GuidAtlas.Text.Printable

/-!
Quoted text of the source table: quotes, backslashes and everything that does not show by itself are
escaped.
-/

namespace GuidAtlas.Text

def showsItself (c : Char) : Bool := isPrintable c && !isExtending c

/-- A character of quoted text. What `shows` leaves out is written as a number. -/
def quotedCharBy (shows : Char → Bool) (c : Char) : Text :=
  if c = '\x00' then "\\0"
  else if c = '\t' then "\\t"
  else if c = '\r' then "\\r"
  else if c = '\n' then "\\n"
  else if c = '"' then "\\\""
  else if c = '\\' then "\\\\"
  else if shows c then [c]
  else "\\u\x7b" ++ lowerHex c.toNat ++ "\x7d"

def quotedBy (shows : Char → Bool) (t : Text) : Text :=
  '"' :: t.flatMap (quotedCharBy shows) ++ ['"']

def quotedChar (c : Char) : Text := quotedCharBy showsItself c

def quoted (t : Text) : Text := quotedBy showsItself t

end GuidAtlas.Text
