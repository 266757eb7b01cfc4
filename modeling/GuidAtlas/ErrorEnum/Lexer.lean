import GuidAtlas.ErrorEnum.Literal
import GuidAtlas.ErrorEnum.Token
import GuidAtlas.Text.Blank
import GuidAtlas.Text.Quoted

/-!
Source text read as tokens. Comments are left out, except those that document what follows them:
they become attributes.
-/

namespace GuidAtlas.ErrorEnum

open Text

/-- Blanks between tokens, with the two marks of writing direction. -/
def isGap (c : Char) : Bool := isBlank c || c = '\u200e' || c = '\u200f'

def takeLine : Text → Text × Text
  | [] => ([], [])
  | '\n' :: t => ([], '\n' :: t)
  | '\r' :: '\n' :: t => ([], '\n' :: t)
  | c :: t => let (line, rest) := takeLine t; (c :: line, rest)

/-- The rest of a block comment that is `depth` comments deep, and what follows it. -/
def takeBlock? : (depth : Nat) → Text → Option (Text × Text)
  | _, [] => none
  | depth, '/' :: '*' :: t =>
    (takeBlock? (depth + 1) t).map fun (comment, rest) => ('/' :: '*' :: comment, rest)
  | 0, '*' :: '/' :: t => some ([], t)
  | depth + 1, '*' :: '/' :: t =>
    (takeBlock? depth t).map fun (comment, rest) => ('*' :: '/' :: comment, rest)
  | depth, c :: t => (takeBlock? depth t).map fun (comment, rest) => (c :: comment, rest)

/-- Goes on behind a block comment, or stays before one that does not end. -/
def skipBlock (onward : Text → Text) (t inside : Text) : Text :=
  match takeBlock? 0 inside with
  | some (_, rest) => onward rest
  | none => t

/-- Passes over blanks and over comments that document nothing. -/
def skipGaps : (fuel : Nat) → Text → Text
  | 0, t => t
  | fuel + 1, t =>
    match t with
    | '/' :: '/' :: '!' :: _ => t
    | '/' :: '/' :: '/' :: '/' :: rest => skipGaps fuel (takeLine rest).2
    | '/' :: '/' :: '/' :: _ => t
    | '/' :: '/' :: rest => skipGaps fuel (takeLine rest).2
    | '/' :: '*' :: '!' :: _ => t
    | '/' :: '*' :: '*' :: '/' :: rest => skipGaps fuel rest
    | '/' :: '*' :: '*' :: '*' :: rest => skipBlock (skipGaps fuel) t ('*' :: '*' :: rest)
    | '/' :: '*' :: '*' :: _ => t
    | '/' :: '*' :: rest => skipBlock (skipGaps fuel) t rest
    | c :: rest => if isGap c then skipGaps fuel rest else t
    | [] => []

/-- A documenting comment: its text, whether it is about what is around it, and what follows it. -/
def docComment? : Text → Option (Text × Bool × Text)
  | '/' :: '/' :: '!' :: t => let (line, rest) := takeLine t; some (line, true, rest)
  | '/' :: '*' :: '!' :: t => (takeBlock? 0 t).map fun (comment, rest) => (comment, true, rest)
  | '/' :: '/' :: '/' :: '/' :: _ => none
  | '/' :: '/' :: '/' :: t => let (line, rest) := takeLine t; some (line, false, rest)
  | '/' :: '*' :: '*' :: '*' :: _ => none
  | '/' :: '*' :: '*' :: t => (takeBlock? 0 t).map fun (comment, rest) => (comment, false, rest)
  | _ => none

def hasWholeBreaks : Text → Bool
  | [] => true
  | '\r' :: '\n' :: t => hasWholeBreaks t
  | '\r' :: _ => false
  | _ :: t => hasWholeBreaks t

/-- Text as a string literal. A zero before a digit is written with two digits of its own. -/
def stringBody : Text → Text
  | '\x00' :: c :: t =>
    if '0' ≤ c && c ≤ '7' then "\\x00" ++ stringBody (c :: t) else "\\0" ++ stringBody (c :: t)
  | c :: t => quotedChar c ++ stringBody t
  | [] => []

def stringLiteral (t : Text) : Token := .literal ('"' :: stringBody t ++ ['"'])

def docAttribute (comment : Text) (inner : Bool) : Tokens :=
  (if inner then [.mark '#' false, .mark '!' false] else [.mark '#' false]) ++
    [.group .square [.name "doc", .mark '=' false, stringLiteral comment]]

def beginsComment : Text → Bool
  | '/' :: '/' :: _ | '/' :: '*' :: _ => true
  | _ => false

def isMark (c : Char) : Bool := ("~!@#$%^&*-=+|;:,<.>/?" : Text).elem c

def beginsMark (t : Text) : Bool :=
  !beginsComment t && t.head?.any fun c => isMark c || c = '\x27'

/-- Names that have no raw form. -/
def neverRaw : List Text := ["_", "super", "self", "Self", "crate"]

/-- A name, or a raw name with its mark. -/
def anyName? : Text → Option (Text × Text)
  | 'r' :: '#' :: t => do
    let (name, rest) ← readName? t
    if neverRaw.elem name then none else some ('r' :: '#' :: name, rest)
  | t => readName? t

def stringStarts : List Text :=
  ["r\"", "r#\"", "r##", "b\"", "b\x27", "br\"", "br#", "c\"", "cr\"", "cr#"]

def leaf? (t : Text) : Option (Token × Text) :=
  match Literal.after? t with
  | some rest => some (.literal (t.take (t.length - rest.length)), rest)
  | none =>
    match t with
    | [] => none
    | c :: rest =>
      if c = '\x27' then do
        let (name, after) ← anyName? rest
        match after with
        | '\x27' :: _ => none
        | '#' :: _ => if startsWith rest "r#" then some (.lifetime name, after) else none
        | _ => some (.lifetime name, after)
      else if isMark c then
        if beginsComment t then none else some (.mark c (beginsMark rest), rest)
      else if stringStarts.any (startsWith t) then none
      else (anyName? t).map fun (name, rest) => (.name name, rest)

def tokensUpTo? : (fuel : Nat) → Text → Option (Tokens × Text)
  | 0, _ => none
  | fuel + 1, t =>
    let t := skipGaps (t.length + 1) t
    match docComment? t with
    | some (comment, inner, rest) =>
      if hasWholeBreaks comment then do
        let (tokens, rest) ← tokensUpTo? fuel rest
        return (docAttribute comment inner ++ tokens, rest)
      else none
    | none =>
      match t with
      | [] => some ([], [])
      | c :: rest =>
        if Delimiter.all.any (·.closing = c) then some ([], t)
        else match Delimiter.all.find? (·.opening = c) with
          | some delimiter => do
            let (inner, rest) ← tokensUpTo? fuel rest
            let rest ← afterStart? [delimiter.closing] rest
            let (tokens, rest) ← tokensUpTo? fuel rest
            return (.group delimiter inner :: tokens, rest)
          | none => do
            let (token, rest) ← leaf? t
            let (tokens, rest) ← tokensUpTo? fuel rest
            return (token :: tokens, rest)

def tokens? (t : Text) : Option Tokens :=
  let t := match t with
    | '\uFEFF' :: t => t
    | t => t
  match tokensUpTo? (t.length + 1) t with
  | some (tokens, []) => some tokens
  | _ => none

end GuidAtlas.ErrorEnum
