import GuidAtlas.ErrorEnum.Attribute
import GuidAtlas.ErrorEnum.Infix

/-!
Types as they are written. Of a type only the last part of a path and its arguments are told apart;
the tokens are kept, with the lifetimes among the arguments of a path in front.
-/

namespace GuidAtlas.ErrorEnum

open Text

/-- What is told apart in types and in arguments of types. -/
inductive Shape where
  | path (name : Text) (arguments : Option (List Shape))
  | lifetime (name : Text)
  | other

namespace Shape

/-- Whether a type is an optional text that is borrowed for good or owned. -/
def isOptionalText : Shape → Bool
  | .path option (some (.path cow (some (.lifetime life :: .path str _ :: _)) :: _)) =>
    option = "Option".toList && cow = "Cow".toList && life = "static".toList && str = "str".toList
  | _ => false

end Shape

structure SourceType where
  tokens : Tokens
  shape : Shape
  isName : Bool := false
  /-- Whether the type is a single bound, which may stand in round brackets before further ones. -/
  isBound : Bool := false

structure SourcePath where
  tokens : Tokens
  name : Text
  arguments : Option (List Shape)
  /-- Whether the last part has arguments, in brackets of any kind. -/
  isApplied : Bool
  /-- Whether the path is a single part without arguments in round brackets. -/
  isSingle : Bool
  isPlain : Bool
  /-- Whether the path starts from a type in angle brackets. -/
  isQualified : Bool

structure PathPart where
  tokens : Tokens
  name : Text
  arguments : Option (List Shape)

namespace SourcePath

def ofPart (start : Tokens) (isQualified : Bool) (part : PathPart) : SourcePath :=
  ⟨start ++ part.tokens, part.name, part.arguments, part.arguments.any (!·.isEmpty),
    start.isEmpty, part.arguments.isNone, isQualified⟩

def push (path : SourcePath) (colons : Tokens) (part : PathPart) : SourcePath :=
  ⟨path.tokens ++ colons ++ part.tokens, part.name, part.arguments,
    part.arguments.any (!·.isEmpty), false, path.isPlain && part.arguments.isNone,
    path.isQualified⟩

def apply (path : SourcePath) (tokens : Tokens) : SourcePath :=
  { path with
    tokens := path.tokens ++ tokens
    arguments := none
    isApplied := true
    isSingle := false
    isPlain := false }

def isMacroName (path : SourcePath) : Bool := path.isPlain && !path.isQualified

def type (path : SourcePath) : SourceType :=
  ⟨path.tokens, .path path.name path.arguments, path.isSingle, !path.isQualified⟩

end SourcePath

structure Argument where
  tokens : Tokens
  shape : Shape

def Argument.isLifetime (argument : Argument) : Bool :=
  match argument.shape with
  | .lifetime _ => true
  | _ => false

/-- The tokens of listed items with those that `isFirst` holds of in front, and commas between
them. -/
def frontFirst {α : Type} (isFirst : α → Bool) (tokensOf : α → Tokens) (items : List (α × Bool)) :
    Tokens :=
  let (front, back) := items.partition fun (a, _) => isFirst a
  let gap := if back.isEmpty || front.all (·.2) then [] else [comma]
  listed tokensOf front ++ gap ++ listed tokensOf back

structure Pattern where
  tokens : Tokens
  isOpenRange : Bool := false

/-- Readers for the types, expressions and patterns that stand inside of others. -/
structure Inner where
  /-- Reads a type, which may be a sum of bounds or not. -/
  type : (sums : Bool) → Reader SourceType
  angle : Reader (Tokens × List Shape)
  /-- Reads operands with the signs between them that hold at least as tightly as `least`. With
  `structures` a curly bracket after a path belongs to the path. -/
  operation : (structures : Bool) → (least : Binding) → Reader Tokens
  /-- Reads an expression that ends early if it begins with a block, and whether it has to be
  separated from what follows. -/
  body : Reader (Tokens × Bool)
  /-- Reads a block, which may start with attributes of its own or not. -/
  block : (attributed : Bool) → Reader Tokens
  pattern : Reader Pattern
  /-- Reads a pattern with its alternatives. -/
  alternatives : Reader Pattern

namespace Inner

def expression (inner : Inner) : Reader Tokens := inner.operation true .assignment

/-- Reads an expression before a block. -/
def condition (inner : Inner) : Reader Tokens := inner.operation false .assignment

end Inner

namespace Reader

open Tokens

/-! Paths. -/

def constantArgument (inner : Inner) : Reader Tokens := do
  if ← sees startsLiteral then
    let sign ← optionalMark "-"
    return sign ++ [← token]
  else if ← sees startsName then return [.name (← name)]
  else inner.block true

def lifetimeToken : Reader Tokens := return [.lifetime (← lifetime)]

def lifetimesFor (inner : Inner) : Reader Tokens := do
  let intro ← word "for"
  let opening ← mark "<"
  let lifetimes ← commaList (startsMark ">") do
    let attributes ← attributes inner.expression
    return attributeTokens attributes ++ (← lifetimeToken)
  let closing ← mark ">"
  return intro ++ opening ++ listed id lifetimes ++ closing

def optionalLifetimesFor (inner : Inner) : Reader Tokens :=
  when (startsWord "for") (lifetimesFor inner)

def startsAngle (exprStyle : Bool) (tokens : Tokens) : Bool :=
  (!exprStyle && startsMark "<" tokens && !startsMark "<=" tokens && !startsMark "<<=" tokens) ||
    (startsMark "::" tokens && startsMark "<" (tokens.drop 2))

/-- Words that stand alone as part of a path. -/
def loneParts : List Text := ["super", "self", "crate", "try"]

def pathPart (inner : Inner) (exprStyle : Bool) : Reader PathPart := do
  let w ← anyWord
  if loneParts.elem w then return ⟨[.name w], w, none⟩
  else if w ≠ "Self".toList && keywords.elem w then failure
  else if ← sees (startsAngle exprStyle) then
    let (tokens, shapes) ← inner.angle
    return ⟨.name w :: tokens, w, some shapes⟩
  else return ⟨[.name w], w, none⟩

def pathWhile (looks : Tokens → Bool) (inner : Inner) (exprStyle : Bool) (path : SourcePath) :
    Reader SourcePath := do
  let parts ← whileSees looks do
    let colons ← mark "::"
    return (colons, ← pathPart inner exprStyle)
  return parts.foldl (fun path (colons, part) => path.push colons part) path

/-- Goes on along a path, but not to a bracket of arguments. -/
def pathRest (inner : Inner) (exprStyle : Bool) : SourcePath → Reader SourcePath :=
  pathWhile (fun tokens => startsMark "::" tokens && !startsGroup .round (tokens.drop 2)) inner
    exprStyle

/-- Reads a path that does not start from a type in angle brackets. -/
def openPath (inner : Inner) (exprStyle : Bool) : Reader SourcePath := do
  let root ← optionalMark "::"
  let part ← pathPart inner exprStyle
  pathRest inner exprStyle (.ofPart root false part)

def anyPath (inner : Inner) (exprStyle : Bool) : Reader SourcePath := do
  if ← sees (startsMark "<") then
    let opening ← mark "<"
    let base ← inner.type true
    let view ← when (startsWord "as") do
      let intro ← word "as"
      return intro ++ (← openPath inner false).tokens
    let closing ← mark ">"
    let colons ← mark "::"
    let part ← pathPart inner exprStyle
    let start := opening ++ base.tokens ++ view ++ closing ++ colons
    pathWhile (startsMark "::") inner exprStyle (.ofPart start true part)
  else openPath inner exprStyle

def result (inner : Inner) : Reader Tokens :=
  when (startsMark "->") do
    let arrow ← mark "->"
    return arrow ++ (← inner.type false).tokens

/-- Reads arguments in round brackets, without a result. -/
def roundArguments (inner : Inner) : Reader Tokens := do
  let types ← inside .round (commaList List.isEmpty (inner.type true))
  return [.group .round (listed SourceType.tokens types)]

def startsRoundArguments (tokens : Tokens) : Bool :=
  startsGroup .round tokens || (startsMark "::" tokens && startsGroup .round (tokens.drop 2))

def typePathTail (inner : Inner) : (fuel : Nat) → SourcePath → Reader SourcePath
  | 0, path => return path
  | fuel + 1, path => do
    if !path.isApplied && (← sees startsRoundArguments) then
      let _ ← optionalMark "::"
      let arguments ← roundArguments inner
      let result ← result inner
      let path := path.apply (arguments ++ result)
      if result.isEmpty then typePathTail inner fuel (← pathRest inner false path)
      else return path
    else return path

/-! Bounds. -/

structure Bound where
  tokens : Tokens
  isTrait : Bool

def traitBound (inner : Inner) (constant : Bool) : Reader Tokens := do
  let before ← optionalLifetimesFor inner
  let condition ← if constant then
      if ← sees (startsGroup .square) then do
        let w ← inside .square (word "const")
        pure [Token.group .square w]
      else optionalWord "const"
    else pure []
  let question ← optionalMark "?"
  let after ← if before.isEmpty && !question.isEmpty then optionalLifetimesFor inner else pure []
  let path ← openPath inner false
  let arguments ← if !path.isApplied && (← sees startsRoundArguments) then do
      let _ ← optionalMark "::"
      let arguments ← roundArguments inner
      pure (arguments ++ (← result inner))
    else pure []
  return before ++ condition ++ question ++ after ++ path.tokens ++ arguments

def capturedName : Reader Tokens := do
  if ← sees startsLifetime then lifetimeToken
  else if ← sees (startsWord "Self") then word "Self"
  else return [.name (← name)]

def captures : Reader Tokens := do
  let intro ← word "use"
  let opening ← mark "<"
  let names ← commaList (startsMark ">") capturedName
  let closing ← mark ">"
  return intro ++ opening ++ listed id names ++ closing

def bound (inner : Inner) (captured constant : Bool) : Reader Bound := do
  if ← sees startsLifetime then return ⟨← lifetimeToken, false⟩
  else if captured && (← sees (startsWord "use")) then return ⟨← captures, false⟩
  else if ← sees (startsGroup .round) then
    let tokens ← inside .round (traitBound inner constant)
    return ⟨[.group .round tokens], true⟩
  else return ⟨← traitBound inner constant, true⟩

/-- Reads bounds with plus signs between them, and perhaps one at the end, as long as `ends` does
not hold. -/
def boundsUpTo (ends : Tokens → Bool) (bound : Reader Bound) : (fuel : Nat) → Reader (List Bound)
  | 0 => failure
  | fuel + 1 => do
    if ← sees ends then return []
    let first ← bound
    if ← sees (startsMark "+") then
      let plus ← mark "+"
      return { first with tokens := first.tokens ++ plus } :: (← boundsUpTo ends bound fuel)
    else return [first]

def endsBounds (constant : Bool) (tokens : Tokens) : Bool :=
  !((word? tokens).isSome || startsMark "::" tokens || startsMark "?" tokens ||
    startsLifetime tokens || startsGroup .round tokens ||
    (constant && startsGroup .square tokens))

def boundTokens (bounds : List Bound) : Tokens := bounds.flatMap (·.tokens)

/-- Reads at least one bound, and more if sums are allowed. -/
def bounds (sums constant : Bool) (bound : Reader Bound) : Reader (List Bound) := do
  let first ← bound
  if sums && (← sees (startsMark "+")) then
    let plus ← mark "+"
    let rest ← boundsUpTo (endsBounds constant) bound ((← get).length + 1)
    return { first with tokens := first.tokens ++ plus } :: rest
  else return [first]

/-- Reads bounds of which one is a trait. -/
def traitBounds (sums constant : Bool) (bound : Reader Bound) : Reader Tokens := do
  let bounds ← bounds sums constant bound
  if bounds.any (·.isTrait) then return boundTokens bounds else failure

/-! Arguments in angle brackets. -/

def endsBoundedArgument (tokens : Tokens) : Bool := startsMark "," tokens || startsMark ">" tokens

def argument (inner : Inner) : Reader Argument := do
  let tokens ← get
  if startsLifetime tokens && !startsMark "+" (tokens.drop 1) then
    let life ← lifetime
    return ⟨[.lifetime life], .lifetime life⟩
  else if startsLiteral tokens || startsGroup .curly tokens then
    return ⟨← constantArgument inner, .other⟩
  else
    let type ← inner.type true
    if type.isName && (← sees (startsMark "=")) then
      let sign ← mark "="
      if ← sees fun tokens => startsLiteral tokens || startsGroup .curly tokens then
        return ⟨type.tokens ++ sign ++ (← constantArgument inner), .other⟩
      else return ⟨type.tokens ++ sign ++ (← inner.type true).tokens, .other⟩
    else if type.isName && (← sees (startsMark ":")) then
      let colon ← mark ":"
      let bounds ← boundsUpTo endsBoundedArgument (bound inner false true)
        ((← get).length + 1)
      return ⟨type.tokens ++ colon ++ boundTokens bounds, .other⟩
    else return ⟨type.tokens, type.shape⟩

def angle (inner : Inner) : Reader (Tokens × List Shape) := do
  let colons ← optionalMark "::"
  let opening ← mark "<"
  let items ← commaList (startsMark ">") (argument inner)
  let closing ← mark ">"
  return (colons ++ opening ++ frontFirst Argument.isLifetime Argument.tokens items ++ closing,
    items.map (·.1.shape))

end Reader

end GuidAtlas.ErrorEnum
