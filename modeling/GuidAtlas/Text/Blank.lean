import GuidAtlas.Text.CodeRanges

/-!
White space, and the trimming and word splitting that go by it.
-/

namespace GuidAtlas.Text

def blankRanges : CodeRanges := [
  (0x9, 0xd), (0x20, 0x20), (0x85, 0x85), (0xa0, 0xa0), (0x1680, 0x1680), (0x2000, 0x200a),
  (0x2028, 0x2029), (0x202f, 0x202f), (0x205f, 0x205f), (0x3000, 0x3000)]

def isBlank (c : Char) : Bool := blankRanges.has c

def trimStart (t : Text) : Text := trimStartOf isBlank t

def trimEnd (t : Text) : Text := trimEndOf isBlank t

def trim (t : Text) : Text := trimOf isBlank t

/-- The longest pieces without blanks; `openWord` holds the piece being read, newest first. -/
def wordsFrom : (openWord : Text) → Text → List Text
  | w, [] => if w.isEmpty then [] else [w.reverse]
  | w, c :: t =>
    if isBlank c then if w.isEmpty then wordsFrom [] t else w.reverse :: wordsFrom [] t
    else wordsFrom (c :: w) t

def words (t : Text) : List Text := wordsFrom [] t

/-- Every run of blanks becomes one space, and none is left at the ends. -/
def collapse (t : Text) : Text := join [' '] (words t)

end GuidAtlas.Text
