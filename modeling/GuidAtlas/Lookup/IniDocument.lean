import GuidAtlas.Text.Blank

/-!
Documents of sections with `key = value` lines. A backslash joins a line break to the text before it
and is kept before any other character; there are neither quotes nor escapes.
-/

namespace GuidAtlas.Lookup

open Text

/-- A place in a document. Columns count from one, and a line feed stands in column zero of the line
that follows it. -/
structure Position where
  line : Nat
  column : Nat
  deriving DecidableEq, Repr

namespace Position

/-- The place of the first character of `rest`, which follows a character at `position`. -/
def onto (position : Position) (rest : Text) : Position :=
  match rest with
  | [] => position
  | '\n' :: _ => ⟨position.line + 1, 0⟩
  | _ :: _ => ⟨position.line, position.column + 1⟩

def text (position : Position) : Text :=
  decimal (position.line + 1) ++ ":" ++ decimal (position.column + 1)

end Position

structure Reader where
  position : Position
  rest : Text

inductive DocumentFault where
  | inlineComment (position : Position)
  | missingKey (position : Position)
  | unfinishedKey (position : Position)
  | unfinishedSection (position : Position)
  deriving DecidableEq, Repr

def DocumentFault.message : DocumentFault → Text
  | .inlineComment position => position.text ++ " doesn't support inline comment"
  | .missingKey position => position.text ++ " missing key"
  | .unfinishedKey position =>
    position.text ++ " expecting \"[Some('='), Some(':')]\" but found EOF."
  | .unfinishedSection position => position.text ++ " expecting \"[Some(']')]\" but found EOF."

inductive Item where
  | header (name : Text)
  | entry (key value : Text)
  deriving DecidableEq, Repr

namespace Reader

def start (t : Text) : Reader := ⟨Position.onto ⟨0, 0⟩ t, t⟩

def next (reader : Reader) : Reader :=
  ⟨reader.position.onto reader.rest.tail, reader.rest.tail⟩

def dropFrom (p : Char → Bool) (position : Position) : Text → Reader
  | [] => ⟨position, []⟩
  | c :: t => if p c then dropFrom p (position.onto t) t else ⟨position, c :: t⟩

def dropWhile (p : Char → Bool) (reader : Reader) : Reader :=
  dropFrom p reader.position reader.rest

def dropLine (reader : Reader) : Reader :=
  let stop := reader.dropWhile (· ≠ '\n')
  stop.next

/-- Passes over blanks, and stops after a line end if the next line is indented. -/
def skipFrom (position : Position) : Text → Reader
  | [] => ⟨position, []⟩
  | c :: t =>
    if c = '\n' || c = '\r' then
      match t with
      | d :: _ => if d = ' ' || d = '\t' then ⟨position.onto t, t⟩ else skipFrom (position.onto t) t
      | [] => ⟨position.onto t, t⟩
    else if isBlank c then skipFrom (position.onto t) t
    else ⟨position, c :: t⟩

def skip (reader : Reader) : Reader := skipFrom reader.position reader.rest

def upToFrom (stop : Char → Bool) (position : Position) : Text → Text × Reader
  | [] => ([], ⟨position, []⟩)
  | c :: t =>
    if stop c then ([], ⟨position, c :: t⟩)
    else if c = '\\' then
      match t with
      | [] => (['\\'], ⟨position.onto t, []⟩)
      | d :: t' =>
        let (text, reader) := upToFrom stop ((position.onto t).onto t') t'
        (if d = '\n' then text else '\\' :: d :: text, reader)
    else
      let (text, reader) := upToFrom stop (position.onto t) t
      (c :: text, reader)

def upTo (stop : Char → Bool) (reader : Reader) : Text × Reader :=
  upToFrom stop reader.position reader.rest

def endsKey (c : Char) : Bool := c = '=' || c = ':'

def endsLine (c : Char) : Bool := c = '\n' || c = '\r'

def readSection (reader : Reader) : Except DocumentFault (Text × Reader) :=
  let (name, stop) := reader.next.upTo (· = ']')
  if stop.rest.isEmpty then .error (.unfinishedSection stop.position)
  else .ok (trim name, stop.next)

def readValue (reader : Reader) : Text × Reader :=
  let (value, stop) := (reader.next.dropWhile fun c => isBlank c && !endsLine c).upTo endsLine
  (trim value, stop)

inductive Round where
  | more (items : List Item) (key : Text) (reader : Reader)
  | failed (fault : DocumentFault)

def sectionRound (key : Text) (reader : Reader) : Round :=
  match reader.readSection with
  | .ok (name, stop) => .more [.header name] key stop.skip
  | .error fault => .failed fault

/-- Reads from a character `c` on, with the key that is still without a value. -/
def round (key : Text) (c : Char) (reader : Reader) : Round :=
  if c = ';' || c = '#' then
    if 1 < reader.position.column then .failed (.inlineComment reader.position)
    else .more [] key reader.dropLine.skip
  else if c = '[' then sectionRound key reader
  else if endsKey c then
    if key.isEmpty then .failed (.missingKey reader.position)
    else
      let (value, stop) := reader.readValue
      .more [.entry key value] [] stop.skip
  else if c = ' ' || c = '\t' then
    let reader := reader.dropWhile fun c => c = ' ' || c = '\t'
    match reader.rest with
    | '[' :: _ => sectionRound key reader
    | d :: _ =>
      if endsLine d then .more [] key reader.next
      else
        let (text, stop) := reader.upTo endsKey
        .more [] (if stop.rest.isEmpty then key else trim text) stop.skip
    | [] => .more [] key reader
  else if endsLine c then .more [] key reader.next.skip
  else
    let (text, stop) := reader.upTo endsKey
    if stop.rest.isEmpty then .failed (.unfinishedKey stop.position)
    else .more [] (trim text) stop.skip

/-- Reads on in at most `rounds` rounds, each of which takes a character or more. -/
def itemsFrom : (rounds : Nat) → (key : Text) → Reader → Except DocumentFault (List Item)
  | 0, _, _ => .ok []
  | rounds + 1, key, reader =>
    match reader.rest with
    | [] => .ok []
    | c :: _ =>
      match round key c reader with
      | .failed fault => .error fault
      | .more items key reader => (itemsFrom rounds key reader).map (items ++ ·)

end Reader

def readItems (t : Text) : Except DocumentFault (List Item) :=
  Reader.itemsFrom t.length [] (Reader.start t)

def leadingEntries : List Item → List (Text × Text)
  | .entry key value :: items => (key, value) :: leadingEntries items
  | _ => []

def sectionEntries? (p : Text → Bool) : List Item → Option (List (Text × Text))
  | [] => none
  | .header name :: items =>
    if p name then some (leadingEntries items) else sectionEntries? p items
  | .entry _ _ :: items => sectionEntries? p items

end GuidAtlas.Lookup
