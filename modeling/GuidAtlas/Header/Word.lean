import GuidAtlas.Text.Alphanumeric
import GuidAtlas.Header.Below

/-!
Names in headers: runs of letters, digits and `_<.>*`, with everything between angle brackets.
-/

namespace GuidAtlas.Header

open Text

def isWordChar (c : Char) : Bool := isAlphanumeric c || ("_<.>*" : Text).elem c

/-- Qualified names are separated by dots. -/
def dotted (t : Text) : Text := replace "::" "." t

/-- The word that starts a text; an opening bracket lets every character in up to a closing one. -/
def wordAtStart : (inBrackets : Bool) → Text → Text
  | _, [] => []
  | inBrackets, c :: t =>
    let inBrackets := c = '<' || (c ≠ '>' && inBrackets)
    if inBrackets || isWordChar c then c :: wordAtStart inBrackets t else []

/-- Where a word stopped: the rest of its line counts from a byte offset. -/
structure Place where
  line : Text
  offset : Nat
  below : List Text

structure Word where
  text : Text
  stop : Place

/-- The first word of a text, with what is passed over before it. -/
def wordIn? (t : Text) : Option (Text × Text) :=
  match wordAtStart false (t.dropWhile (!isWordChar ·)) with
  | [] => none
  | word => some (t.takeWhile (!isWordChar ·), word)

/-- The first word of the dotted line after `offset`. The offset it stops at is counted in the
dotted line. -/
def wordOnLine? (line : Text) (offset : Nat) (below : List Text) : Option Word :=
  (wordIn? (dotted (dropBytes offset line))).map fun (before, word) =>
    ⟨word, line, offset + utf8Length before + utf8Length word, below⟩

def wordBelow : (window : Nat) → (below : List Text) → Reading (Option Word)
  | 0, _ => ⟨none, 0⟩
  | _ + 1, [] => ⟨none, 0⟩
  | window + 1, line :: below =>
    if isValid line false then
      match wordOnLine? line 0 below with
      | some word => ⟨some word, 1⟩
      | none => (wordBelow searchWindow below).below
    else (wordBelow window below).below

def nextWord (place : Place) : Reading (Option Word) :=
  match wordOnLine? place.line place.offset place.below with
  | some word => ⟨some word, 0⟩
  | none => wordBelow searchWindow place.below

/-- A word as a name: no dot after an opening bracket, no pointer stars at the end, one space after
each comma. -/
def tidy (word : Text) : Text :=
  collapse (replaceChar ',' ", " (trimEndOf (· = '*') (replace "<." "<" word)))

def namespaceDepth : Nat := 8

/-- The names after the occurrences of `namespace` in a line, last first. -/
def namespacesOf (line : Text) : List Text :=
  ((pieces "namespace" line).tail.map (trimOf fun c => c = ' ' || c = '{')).reverse

/-- Puts names in front of a dotted path, up to the root `ABI`, and tells whether it was met. -/
def qualify (path : Text) : List Text → Text × Bool
  | [] => (path, false)
  | name :: names =>
    let path := name ++ '.' :: path
    if name = "ABI".toList then (path, true) else qualify path names

/-- Collects namespaces from the nearest line `above` upwards. -/
def abiPathFrom (path : Text) : (depth window : Nat) → (above : List Text) → Text
  | depth + 1, window + 1, line :: above =>
    if isValid line false then
      match qualify path (namespacesOf line) with
      | (path, true) => path
      | (path, false) => abiPathFrom path depth searchWindow above
    else abiPathFrom path (depth + 1) window above
  | _, _, _ => []

/-- The dotted path, with a dot at its end, of the namespaces opened above a line, if the outermost
one found is `ABI`. -/
def abiPath (above : List Text) : Text := abiPathFrom [] namespaceDepth searchWindow above

end GuidAtlas.Header
