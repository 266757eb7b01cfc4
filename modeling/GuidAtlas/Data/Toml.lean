import GuidAtlas.Data.Toml.Scalar
import GuidAtlas.Data.Toml.Table

/-!
A reader of configuration text: headers open tables, lines give values to keys. Values are texts,
numbers, truth values, dates, lists and tables in braces.
-/

namespace GuidAtlas.Toml

open Text

mutual

def value? : (fuel : Nat) → (depth : Nat) → Text → Option (Value × Text)
  | 0, _, _ => none
  | fuel + 1, depth, t =>
    match t, depth with
    | '"' :: _, _ | '\'' :: _, _ => (quotedText? t).map fun (text, t) => (.text text, t)
    | '[' :: t, depth + 1 => (items? fuel depth t).map fun (items, t) => (.list items, t)
    | '\x7b' :: t, depth + 1 => (members? fuel depth [] t).map fun (members, t) =>
        (.table (valuesOf members), t)
    | t, _ =>
      let (word, t) := scalarWord t
      (scalar? word).map (·, t)

def items? : (fuel : Nat) → (depth : Nat) → Text → Option (List Value × Text)
  | 0, _, _ => none
  | fuel + 1, depth, t =>
    match skipLines true t.length t with
    | ']' :: t => some ([], t)
    | t => do
      let (value, t) ← value? fuel depth t
      match skipLines true t.length t with
      | ']' :: t => return ([value], t)
      | ',' :: t =>
        let (items, t) ← items? fuel depth t
        return (value :: items, t)
      | _ => none

/-- The members of a table in braces, after those read so far. Each part of them may stand on a line
of its own. -/
def members? : (fuel : Nat) → (depth : Nat) → Members → Text → Option (Members × Text)
  | 0, _, _, _ => none
  | fuel + 1, depth, members, t =>
    match skipLines true t.length t with
    | '\x7d' :: t => some (members, t)
    | t => do
      let (path, t) ← path? t
      let t ← afterStart? "=" (skipLines true t.length t)
      let (value, t) ← value? fuel depth (skipLines true t.length t)
      let members ← assign? path value members
      match skipLines true t.length t with
      | '\x7d' :: t => return (members, t)
      | ',' :: t => members? fuel depth members t
      | _ => none

end

/-- The members read so far, under the latest header. -/
structure Document where
  members : Members
  header : List Text

def header? (closing : Text) (t : Text) : Option (List Text × Text) := do
  let (path, t) ← path? t
  let t ← afterStart? closing t
  let t ← lineRest? t
  return (path, t)

def linesFrom? : (fuel : Nat) → Document → Text → Option Document
  | 0, _, _ => none
  | fuel + 1, document, t =>
    match skipLines true t.length t with
    | [] => some document
    | '[' :: '[' :: t => do
      let (path, t) ← header? "]]" t
      linesFrom? fuel ⟨← openRow? path document.members, path⟩ t
    | '[' :: t => do
      let (path, t) ← header? "]" t
      linesFrom? fuel ⟨← openTable? path document.members, path⟩ t
    | t => do
      let (path, t) ← path? t
      let t ← afterStart? "=" t
      let (value, t) ← value? (t.length + 1) deepest (skipSpace t)
      let t ← lineRest? t
      let members ← assignUnder? document.header path value document.members
      linesFrom? fuel { document with members := members } t

/-- The members of the table that a text, perhaps with a byte order mark before it, describes. -/
def parse? (t : Text) : Option (List (Text × Value)) :=
  let t := (afterStart? "\uFEFF" t).getD t
  (linesFrom? (t.length + 1) ⟨[], []⟩ t).map fun document => valuesOf document.members

end GuidAtlas.Toml
