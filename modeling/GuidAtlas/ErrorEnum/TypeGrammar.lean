import GuidAtlas.ErrorEnum.SourceType

/-!
Types: paths, sums of bounds, functions, pointers, and what stands in brackets.
-/

namespace GuidAtlas.ErrorEnum

open Text

namespace Reader

open Tokens

def other (tokens : Tokens) : SourceType := { tokens, shape := .other }

def startsPathWord (tokens : Tokens) : Bool :=
  startsName tokens || (word? tokens).any pathWords.elem

def typePath (inner : Inner) : Reader SourcePath := do
  let path ← anyPath inner false
  typePathTail inner (← get).length path

/-- Bounds that go on behind a first one. -/
def furtherBounds (inner : Inner) : Reader Tokens := do
  if ← sees (startsMark "+") then
    let plus ← mark "+"
    let rest ← boundsUpTo (endsBounds false) (bound inner false false) ((← get).length + 1)
    return plus ++ boundTokens rest
  else return []

def pathType (inner : Inner) (sums : Bool) : Reader SourceType := do
  let path ← typePath inner
  if path.isQualified then return path.type
  else if path.isMacroName && (← sees fun t => startsMark "!" t && !startsMark "!=" t) then
    let bang ← mark "!"
    return other (path.tokens ++ bang ++ (← anyGroup))
  else if sums && (← sees (startsMark "+")) then
    return other (path.tokens ++ (← furtherBounds inner))
  else return path.type

/-- What stands in round brackets, and whether bounds may follow: always, or where sums are
allowed. -/
structure RoundType where
  tokens : Tokens
  isBound : Bool
  isRelaxed : Bool

/-- What stands in round brackets: nothing, bounds, a type or a list of types. -/
def roundType (inner : Inner) : Reader RoundType := do
  let tokens ← get
  if tokens.isEmpty then return ⟨[], false, false⟩
  else if startsLifetime tokens then
    return ⟨← traitBounds true false (bound inner false false), false, false⟩
  else if startsMark "?" tokens then return ⟨← traitBound inner false, true, true⟩
  else
    let items ← commaList List.isEmpty (inner.type true)
    let isBound := match items with
      | [(type, false)] => type.isBound
      | _ => false
    return ⟨listed SourceType.tokens items, isBound, false⟩

def boundsBehindRound (inner : Inner) : Reader Tokens := do
  let rest ← whileSees (startsMark "+") do
    let plus ← mark "+"
    return plus ++ (← bound inner false false).tokens
  return rest.flatten

def groupedType (inner : Inner) (sums : Bool) : Reader SourceType := do
  let content ← inside .round (roundType inner)
  let rest ← if content.isBound && (sums || content.isRelaxed) then boundsBehindRound inner
    else pure []
  return other (.group .round content.tokens :: rest)

/-- Whether the tokens name a parameter, other than the value that a method is called on. -/
def startsNamedParameter (tokens : Tokens) : Bool :=
  (startsName tokens || startsWord "_" tokens) && startsMark ":" (tokens.drop 1) &&
    !startsMark "::" (tokens.drop 1)

def parameterName : Reader Tokens := do
  let w ← anyWord
  return .name w :: (← mark ":")

def startsVariadic (tokens : Tokens) : Bool :=
  startsMark "..." tokens ||
    (startsNamedParameter tokens && startsMark "..." (tokens.drop 2))

/-- The value that a method is called on, which may have a type. -/
def receiver (inner : Inner) : Reader Tokens := do
  let kind ← optionalWord "mut"
  let self ← word "self"
  let type ← when (fun tokens => startsMark ":" tokens && !startsMark "::" tokens) do
    let colon ← mark ":"
    return colon ++ (← inner.type true).tokens
  return kind ++ self ++ type

def startsReceiver (tokens : Tokens) : Bool :=
  (startsWord "mut" tokens && startsWord "self" (tokens.drop 1)) ||
    (startsWord "self" tokens && startsMark ":" (tokens.drop 1) &&
      !startsMark "::" (tokens.drop 1))

/-- Reads the parameters of a function type. Only the first may be a receiver, and only the last may
stand for any further ones. -/
def parametersFrom (inner : Inner) : (fuel : Nat) → (isFirst : Bool) → Reader Tokens
  | 0, _ => failure
  | fuel + 1, isFirst => do
    if (← get).isEmpty then return []
    let attributes ← attributes inner.expression
    if ← sees startsVariadic then
      let name ← when startsNamedParameter parameterName
      return attributeTokens attributes ++ name ++ (← mark "...") ++ (← optionalMark ",")
    let parameter ←
      if isFirst && (← sees startsReceiver) then receiver inner
      else do
        let name ← when startsNamedParameter parameterName
        pure (name ++ (← inner.type true).tokens)
    let start := attributeTokens attributes ++ parameter
    if (← get).isEmpty then return start
    let sign ← mark ","
    return start ++ sign ++ (← parametersFrom inner fuel false)

def parameters (inner : Inner) : Reader Tokens := do
  parametersFrom inner ((← get).length + 1) true

def startsConvention : Tokens → Bool
  | .literal t :: _ => t.head?.any fun c => c = '"' || c = 'r'
  | _ => false

def functionType (inner : Inner) : Reader SourceType := do
  let unsafety ← optionalWord "unsafe"
  let convention ← when (startsWord "extern") do
    let w ← word "extern"
    return w ++ (← when startsConvention do return [← token])
  let intro ← word "fn"
  let parameters ← inside .round (parameters inner)
  let result ← result inner
  return other (unsafety ++ convention ++ intro ++ [.group .round parameters] ++ result)

def squareType (inner : Inner) : Reader Tokens := do
  let item ← inner.type true
  if ← sees (startsMark ";") then
    let semicolon ← mark ";"
    return item.tokens ++ semicolon ++ (← inner.expression)
  else return item.tokens

def pointerType (inner : Inner) : Reader SourceType := do
  let star ← mark "*"
  let kind ← if ← sees (startsWord "const") then word "const" else word "mut"
  return other (star ++ kind ++ (← inner.type false).tokens)

def referenceType (inner : Inner) : Reader SourceType := do
  let sign ← mark "&"
  let life ← when startsLifetime lifetimeToken
  let kind ← optionalWord "mut"
  return other (sign ++ life ++ kind ++ (← inner.type false).tokens)

def boundType (inner : Inner) (sums : Bool) : Reader SourceType := do
  let lifetimes ← lifetimesFor inner
  let tokens ← get
  if startsWord "fn" tokens || startsWord "unsafe" tokens || startsWord "extern" tokens then
    return other (lifetimes ++ (← functionType inner).tokens)
  else if startsPathWord tokens then
    let path ← typePath inner
    let rest ← if sums then furtherBounds inner else pure []
    return { other (lifetimes ++ path.tokens ++ rest) with isBound := rest.isEmpty }
  else failure

def type (inner : Inner) (sums : Bool) : Reader SourceType := do
  let tokens ← get
  if startsWord "for" tokens then boundType inner sums
  else if startsGroup .round tokens then groupedType inner sums
  else if startsWord "fn" tokens || startsWord "unsafe" tokens || startsWord "extern" tokens then
    functionType inner
  else if startsPathWord tokens || startsMark "::" tokens || startsMark "<" tokens then
    pathType inner sums
  else if startsWord "dyn" tokens then
    let intro ← word "dyn"
    let star ← optionalMark "*"
    return other (intro ++ star ++ (← traitBounds sums false (bound inner false false)))
  else if startsGroup .square tokens then
    return other [.group .square (← inside .square (squareType inner))]
  else if startsMark "*" tokens then pointerType inner
  else if startsMark "&" tokens then referenceType inner
  else if startsMark "!" tokens && !startsMark "!=" tokens then return other (← mark "!")
  else if startsWord "impl" tokens then
    let intro ← word "impl"
    return other (intro ++ (← traitBounds sums true (bound inner true true)))
  else if startsWord "_" tokens then return other (← word "_")
  else if startsLifetime tokens then
    return other (← traitBounds true false (bound inner false false))
  else failure

end Reader

end GuidAtlas.ErrorEnum
