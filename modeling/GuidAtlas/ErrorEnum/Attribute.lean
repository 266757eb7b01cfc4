import GuidAtlas.ErrorEnum.Reader

/-!
Attributes: a path, with arguments in brackets or a value.
-/

namespace GuidAtlas.ErrorEnum

open Text

structure Attribute where
  rooted : Bool
  path : List Text
  arguments : Option Tokens
  tokens : Tokens

/-- Whether the path is just this name. -/
def Attribute.isNamed (a : Attribute) (name : Text) : Bool := !a.rooted && a.path = [name]

structure PlainPath where
  rooted : Bool
  parts : List Text
  tokens : Tokens

namespace Reader

/-- Reads parts with `part`, each after the first behind two colons. -/
def pathWith (part : Reader Text) : Reader PlainPath := do
  let root ← optionalMark "::"
  let first ← part
  let rest ← whileSees (Tokens.startsMark "::") do
    let colons ← mark "::"
    return (colons, ← part)
  return ⟨!root.isEmpty, first :: rest.map (·.2),
    root ++ .name first :: rest.flatMap fun (colons, name) => colons ++ [.name name]⟩

def plainPart : Reader Text := do
  let w ← anyWord
  if !keywords.elem w || pathWords.elem w then return w else failure

def plainPath : Reader PlainPath := pathWith plainPart

def attributePath : Reader PlainPath := do
  if ← sees (Tokens.startsWord "unsafe") then
    return ⟨false, ["unsafe"], ← word "unsafe"⟩
  else plainPath

/-- Reads what stands in the brackets of an attribute; `value` reads an expression. -/
def attributeBody (value : Reader Tokens) : Reader Attribute := do
  let path ← attributePath
  match ← get with
  | [.group delimiter inner] =>
    set ([] : Tokens)
    return ⟨path.rooted, path.parts, some inner, path.tokens ++ [.group delimiter inner]⟩
  | tokens =>
    if Tokens.startsMark "=" tokens && !Tokens.startsMark "==" tokens &&
        !Tokens.startsMark "=>" tokens then
      let sign ← mark "="
      if ← sees (Tokens.startsMark "#") then failure
      return ⟨path.rooted, path.parts, none, path.tokens ++ sign ++ (← value)⟩
    else return ⟨path.rooted, path.parts, none, path.tokens⟩

def singleAttribute (value : Reader Tokens) : Reader Attribute := do
  let sign ← mark "#"
  let body ← inside .square (attributeBody value)
  return { body with tokens := sign ++ [.group .square body.tokens] }

def attributes (value : Reader Tokens) : Reader (List Attribute) :=
  whileSees (Tokens.startsMark "#") (singleAttribute value)

end Reader

def attributeTokens (attributes : List Attribute) : Tokens := attributes.flatMap (·.tokens)

/-- The paths listed in the arguments of an attribute, each by its last part. Reading stops at the
first thing that is no path with a comma or the end after it; the path before it counts. -/
def listedNamesFrom : (fuel : Nat) → Tokens → List Text
  | 0, _ => []
  | fuel + 1, tokens =>
    match (Reader.pathWith Reader.anyWord) tokens with
    | none => []
    | some (path, rest) =>
      path.parts.getLast?.toList ++
        match Tokens.afterMark? "," rest with
        | some rest => listedNamesFrom fuel rest
        | none => []

def Attribute.listedNames (a : Attribute) : List Text :=
  match a.arguments with
  | some tokens => listedNamesFrom (tokens.length + 1) tokens
  | none => []

end GuidAtlas.ErrorEnum
