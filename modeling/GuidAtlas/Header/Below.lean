import GuidAtlas.Guid.Number
import GuidAtlas.Header.Line

/-!
Reading on from a line into the lines below it. A reading skips invalid lines, at most
`searchWindow` of them in a row, and counts the lines it takes.
-/

namespace GuidAtlas.Header

open Text

def searchWindow : Nat := 7

structure Reading (α : Type) where
  value : α
  /-- The number of lines taken below the first one. -/
  taken : Nat

def Reading.below {α : Type} (reading : Reading α) : Reading α :=
  { reading with taken := reading.taken + 1 }

/-- Appends valid lines to `text` until it is complete. -/
def gatherFrom (complete : Text → Bool) (allowBraces : Bool) (text : Text) :
    (window : Nat) → (below : List Text) → Reading (Option Text)
  | 0, _ => ⟨none, 0⟩
  | _ + 1, [] => ⟨none, 0⟩
  | window + 1, line :: below =>
    if isValid line allowBraces then
      let text := text ++ line
      if complete text then ⟨some text, 1⟩
      else (gatherFrom complete allowBraces text searchWindow below).below
    else (gatherFrom complete allowBraces text window below).below

/-- A line with as many of the lines below it as make it complete. -/
def gather (complete : Text → Bool) (allowBraces : Bool) (line : Text) (below : List Text) :
    Reading (Option Text) :=
  if complete line then ⟨some line, 0⟩
  else gatherFrom complete allowBraces line searchWindow below

def closesTwice (t : Text) : Bool := 2 ≤ t.count '}'

/-- The GUID of a brace initializer that ends at the second closing brace. -/
def initializer (line : Text) (below : List Text) : Reading (Option Text) :=
  let reading := gather closesTwice true line below
  ⟨reading.value.bind Guid.ofInitializer?, reading.taken⟩

def hasParentheses (t : Text) : Bool := t.elem '(' && t.elem ')'

def argumentsOf? (t : Text) : Option (List Text) := do
  let (_, rest) ← cut? "(" t
  let (inner, _) ← cut? ")" rest
  return (splitAt ',' inner).map trim

/-- The first argument list in parentheses, if it has as many members as wanted. -/
def arguments (count : Nat) (line : Text) (below : List Text) : Reading (Option (List Text)) :=
  let reading := gather hasParentheses false line below
  ⟨(reading.value.bind argumentsOf?).filter (·.length = count), reading.taken⟩

end GuidAtlas.Header
