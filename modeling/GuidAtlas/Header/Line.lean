import GuidAtlas.Text.Blank

/-!
The lines of a header as the declaration rules see them: spliced, without comments and with single
spaces, one for each line of the source.
-/

namespace GuidAtlas.Header

open Text

/-- Removes the comments of a line; the flag says whether a block comment is open. -/
def uncomment : (inBlock : Bool) → Text → Text × Bool
  | inBlock, [] => ([], inBlock)
  | true, '*' :: '/' :: t => uncomment false t
  | true, _ :: t => uncomment true t
  | false, '/' :: '/' :: _ => ([], false)
  | false, '/' :: '*' :: t => uncomment true t
  | false, c :: t =>
    let (kept, inBlock) := uncomment false t
    (c :: kept, inBlock)

def withoutMarkers (t : Text) : Text :=
  replace "DECLSPEC_NOVTABLE" [] (replace "__declspec(novtable)" [] t)

def beforeBackslash? (t : Text) : Option Text :=
  match t.reverse with
  | '\\' :: r => some r.reverse
  | _ => none

def withPending (pending : Option Text) (line : Text) : Text :=
  trim (match pending with
    | some head => head ++ ' ' :: trim line
    | none => line)

/-- Lines after `pending`, the text of the lines above that end in backslashes; a line that is
continued leaves an empty one behind. -/
def preparedFrom : (inBlock : Bool) → (pending : Option Text) → List Text → List Text
  | _, _, [] => []
  | inBlock, pending, line :: below =>
    let text := withPending pending line
    let finish (text : Text) :=
      let (kept, inBlock) := uncomment inBlock text
      collapse (withoutMarkers kept) :: preparedFrom inBlock none below
    match beforeBackslash? text with
    | none => finish text
    | some head =>
      if below.isEmpty then finish head
      else [] :: preparedFrom inBlock (some (trimEnd head)) below

def prepare (t : Text) : List Text := preparedFrom false none (lines t)

def skippedStarts : List Text := ["#if ", "#endif", "#define ", "DEPRECATED"]

def startsWithBrace (line : Text) : Bool :=
  match line with
  | c :: _ => c = '{' || c = '}'
  | [] => false

/-- Whether a prepared line can hold a part of a declaration. -/
def isValid (line : Text) (allowBraces : Bool) : Bool :=
  !line.isEmpty && !skippedStarts.any (startsWith line) && (allowBraces || !startsWithBrace line)

end GuidAtlas.Header
