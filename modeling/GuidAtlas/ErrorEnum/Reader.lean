import GuidAtlas.ErrorEnum.Token

/-!
Readers take what they read from the front of the tokens at hand. They look at marks, words and
names, and read what a bracket holds to its end.
-/

namespace GuidAtlas.ErrorEnum

open Text

abbrev Reader (α : Type) := StateT Tokens Option α

def keywords : List Text :=
  (["_", "abstract", "as", "async", "await", "become", "box", "break", "const", "continue", "crate",
    "do", "dyn", "else", "enum", "extern", "false", "final", "fn", "for", "if", "impl", "in", "let",
    "loop", "macro", "match", "mod", "move", "mut", "override", "priv", "pub", "ref", "return",
    "Self", "self", "static", "struct", "super", "trait", "true", "try", "type", "typeof", "unsafe",
    "unsized", "use", "virtual", "where", "while", "yield"] : List String).map String.toList

/-- Words that a path may start with although they are no names. -/
def pathWords : List Text := ["super", "self", "Self", "crate"]

namespace Tokens

/-- What follows a mark of one or more characters, of which all but the last are joined to the
next. -/
def afterMark? : Text → Tokens → Option Tokens
  | [], tokens => some tokens
  | [c], .mark d _ :: tokens => if c = d then some tokens else none
  | c :: mark, .mark d joint :: tokens => if c = d && joint then afterMark? mark tokens else none
  | _, _ => none

def startsMark (mark : Text) (tokens : Tokens) : Bool := (afterMark? mark tokens).isSome

def word? : Tokens → Option Text
  | .name t :: _ => some t
  | _ => none

def startsWord (word : Text) (tokens : Tokens) : Bool := word? tokens = some word

def startsName (tokens : Tokens) : Bool := (word? tokens).any fun t => !keywords.elem t

def startsLifetime : Tokens → Bool
  | .lifetime _ :: _ => true
  | _ => false

def startsGroup (delimiter : Delimiter) : Tokens → Bool
  | .group d _ :: _ => d = delimiter
  | _ => false

/-- Whether the tokens start with a literal. Numbers may have a minus sign. -/
def startsLiteral : Tokens → Bool
  | .literal _ :: _ => true
  | .mark '-' _ :: .literal t :: _ => t.head?.any fun c => '0' ≤ c && c ≤ '9'
  | tokens => startsWord "true" tokens || startsWord "false" tokens

end Tokens

namespace Reader

variable {α : Type}

def sees (looks : Tokens → Bool) : Reader Bool := return looks (← get)

def token : Reader Token := do
  match ← get with
  | token :: tokens => set tokens; return token
  | [] => failure

def mark (m : Text) : Reader Tokens := do
  let tokens ← get
  match Tokens.afterMark? m tokens with
  | some rest => set rest; return tokens.take m.length
  | none => failure

def word (w : Text) : Reader Tokens := do
  if ← sees (Tokens.startsWord w) then return [← token] else failure

/-- Reads a word whether it is a keyword or not. -/
def anyWord : Reader Text := do
  match ← token with
  | .name t => return t
  | _ => failure

def name : Reader Text := do
  if ← sees Tokens.startsName then anyWord else failure

def lifetime : Reader Text := do
  match ← token with
  | .lifetime t => return t
  | _ => failure

/-- Reads with `reader` if the tokens look a certain way, and nothing otherwise. -/
def when (looks : Tokens → Bool) (reader : Reader Tokens) : Reader Tokens := do
  if ← sees looks then reader else return []

def optionalMark (m : Text) : Reader Tokens := when (Tokens.startsMark m) (mark m)

def optionalWord (w : Text) : Reader Tokens := when (Tokens.startsWord w) (word w)

def all (reader : Reader α) (tokens : Tokens) : Option α :=
  match reader tokens with
  | some (a, []) => some a
  | _ => none

def inside (delimiter : Delimiter) (reader : Reader α) : Reader α := do
  match ← token with
  | .group d inner =>
    if d = delimiter then
      match all reader inner with
      | some a => return a
      | none => failure
    else failure
  | _ => failure

def group (delimiter : Delimiter) : Reader Tokens := do
  if ← sees (Tokens.startsGroup delimiter) then return [← token] else failure

def anyGroup : Reader Tokens := do
  match ← token with
  | .group d inner => return [.group d inner]
  | _ => failure

/-- Reads items with commas after them until the tokens look like the end, each with whether a comma
follows it. -/
def commaListFrom (ends : Tokens → Bool) (item : Reader α) : (fuel : Nat) → Reader (List (α × Bool))
  | 0 => failure
  | fuel + 1 => do
    if ← sees ends then return []
    let a ← item
    if ← sees ends then return [(a, false)]
    let _ ← mark ","
    return (a, true) :: (← commaListFrom ends item fuel)

def commaList (ends : Tokens → Bool) (item : Reader α) : Reader (List (α × Bool)) := do
  commaListFrom ends item ((← get).length + 1)

def whileSeesFrom (looks : Tokens → Bool) (item : Reader α) : (fuel : Nat) → Reader (List α)
  | 0 => failure
  | fuel + 1 => do
    if ← sees looks then return (← item) :: (← whileSeesFrom looks item fuel) else return []

def whileSees (looks : Tokens → Bool) (item : Reader α) : Reader (List α) := do
  whileSeesFrom looks item ((← get).length + 1)

end Reader

def listed {α : Type} (tokensOf : α → Tokens) (items : List (α × Bool)) : Tokens :=
  items.flatMap fun (a, hasComma) => if hasComma then tokensOf a ++ [comma] else tokensOf a

end GuidAtlas.ErrorEnum
