import GuidAtlas.Text.Basic

/-!
Paths as they are written: parts separated by slashes.
-/

namespace GuidAtlas.Storage

open Text

abbrev Path := Text

namespace Path

def isAbsolute (path : Path) : Bool := startsWith path "/"

/-- Goes on from `base` along `path`, with one slash between them; an absolute path starts anew. -/
def join (base path : Path) : Path :=
  if isAbsolute path || base.isEmpty || endsWith base "/" then
    if isAbsolute path then path else base ++ path
  else base ++ '/' :: path

/-- The parts that lead somewhere. A slash at the end asks for a directory, like the part `.`. -/
def steps (path : Path) : List Text :=
  let parts := (splitAt '/' path).filter (!·.isEmpty)
  if endsWith path "/" then parts ++ [['.']] else parts

/-- Parts without the dots that stay in place, except a leading one. -/
def plainParts (path : Path) : List Text :=
  match (splitAt '/' path).filter (!·.isEmpty) with
  | [] => []
  | part :: parts =>
    let parts := parts.filter (· ≠ ['.'])
    if part = ['.'] && isAbsolute path then parts else part :: parts

def parent? (path : Path) : Option Path :=
  match plainParts path with
  | [] => none
  | parts =>
    let above := Text.join ['/'] parts.dropLast
    some (if isAbsolute path then '/' :: above else above)

def fileName? (path : Path) : Option Text :=
  match (plainParts path).getLast? with
  | some name => if name = "..".toList || name = ['.'] then none else some name
  | none => none

/-- What follows the last dot of a file name that does not start with it. -/
def extension? (name : Text) : Option Text :=
  match cutLast? "." name with
  | some (_ :: _, extension) => if name = "..".toList then none else some extension
  | _ => none

end Path

end GuidAtlas.Storage
