import GuidAtlas.ErrorEnum.Expression

/-!
Patterns: names, literals, ranges, and what takes records, tuples and slices apart.
-/

namespace GuidAtlas.ErrorEnum

open Text

namespace Reader

open Tokens

def startsBar (tokens : Tokens) : Bool :=
  startsMark "|" tokens && !startsMark "||" tokens && !startsMark "|=" tokens

/-- The sign of a range. Three points are another spelling of the closed sign. -/
def patternRangeSign : Reader Tokens := do
  if ← sees (startsMark "..=") then mark "..="
  else if ← sees (startsMark "...") then
    let _ ← mark "..."
    return [.mark '.' true, .mark '.' true, .mark '=' false]
  else mark ".."

def endsPatternRange (tokens : Tokens) : Bool :=
  tokens.isEmpty || startsMark "|" tokens || startsMark "=" tokens ||
    (startsMark ":" tokens && !startsMark "::" tokens) || startsMark "," tokens ||
    startsMark ";" tokens || startsWord "if" tokens

def startsPath (tokens : Tokens) : Bool :=
  startsName tokens || startsMark "::" tokens || startsMark "<" tokens ||
    (word? tokens).any pathWords.elem

def literalTokens : Reader Tokens := do
  let sign ← optionalMark "-"
  return sign ++ [← token]

def patternBound (inner : Inner) : Reader Tokens := do
  if ← sees startsLiteral then literalTokens
  else if ← sees startsPath then return (← anyPath inner true).tokens
  else
    let intro ← word "const"
    return intro ++ (← inner.block true)

def patternRangeFrom (inner : Inner) (first : Tokens) : Reader Pattern := do
  let isClosed ← sees fun tokens => startsMark "..=" tokens || startsMark "..." tokens
  let sign ← patternRangeSign
  if ← sees endsPatternRange then
    if isClosed then failure else return ⟨first ++ sign, true⟩
  else return ⟨first ++ sign ++ (← patternBound inner), first.isEmpty⟩

/-- A range without a first end, or the rest of what is taken apart. -/
def openPatternRange (inner : Inner) : Reader Pattern := do
  let range ← patternRangeFrom inner []
  return { range with isOpenRange := range.tokens.length > 2 }

def fieldPattern (inner : Inner) : Reader Tokens := do
  let words ← do
    let box ← optionalWord "box"
    let ref ← optionalWord "ref"
    pure (box ++ ref ++ (← optionalWord "mut"))
  if !words.isEmpty then return words ++ [.name (← name)]
  else
    let isPlace ← sees fun tokens => !startsName tokens
    let member ← recordMember
    if isPlace || (← sees (startsMark ":")) then
      let colon ← mark ":"
      return member ++ colon ++ (← inner.alternatives).tokens
    else return member

def fieldPatternsFrom (inner : Inner) : (fuel : Nat) → Reader Tokens
  | 0 => failure
  | fuel + 1 => do
    if (← get).isEmpty then return []
    let attributes ← attributes inner.expression
    let start := attributeTokens attributes
    if ← sees (startsMark "..") then return start ++ (← mark "..")
    let field ← fieldPattern inner
    if (← get).isEmpty then return start ++ field
    let sign ← mark ","
    return start ++ field ++ sign ++ (← fieldPatternsFrom inner fuel)

def fieldPatterns (inner : Inner) : Reader Tokens := do
  fieldPatternsFrom inner ((← get).length + 1)

def patternList (inner : Inner) : Reader Tokens := do
  return listed Pattern.tokens (← commaList List.isEmpty inner.alternatives)

/-- The items of a slice, none of which is a range without one of its ends. -/
def slicePatterns (inner : Inner) : Reader Tokens := do
  let items ← commaList List.isEmpty inner.alternatives
  if items.any (·.1.isOpenRange) then failure else return listed Pattern.tokens items

def pathPattern (inner : Inner) : Reader Pattern := do
  let path ← anyPath inner true
  let tokens ← get
  if path.isMacroName && startsMark "!" tokens && !startsMark "!=" tokens then
    let bang ← mark "!"
    return ⟨path.tokens ++ bang ++ (← anyGroup), false⟩
  else if startsGroup .curly tokens then
    return ⟨path.tokens ++ [.group .curly (← inside .curly (fieldPatterns inner))], false⟩
  else if startsGroup .round tokens then
    return ⟨path.tokens ++ [.group .round (← inside .round (patternList inner))], false⟩
  else if startsMark ".." tokens then patternRangeFrom inner path.tokens
  else return ⟨path.tokens, false⟩

def startsPathPattern (tokens : Tokens) : Bool :=
  let rest := tokens.drop 1
  (startsName tokens && (startsMark "::" rest || startsMark "!" rest ||
      startsGroup .curly rest || startsGroup .round rest || startsMark ".." rest)) ||
    (startsWord "self" tokens && startsMark "::" rest) || startsMark "::" tokens ||
    startsMark "<" tokens || startsWord "Self" tokens || startsWord "super" tokens ||
    startsWord "crate" tokens

def namePattern (inner : Inner) : Reader Tokens := do
  let ref ← optionalWord "ref"
  let mutable ← optionalWord "mut"
  let called ← if ← sees (startsWord "self") then anyWord else name
  let sub ← when (startsMark "@") do
    let sign ← mark "@"
    return sign ++ (← inner.pattern).tokens
  return ref ++ mutable ++ .name called :: sub

/-- Reads a pattern without alternatives. -/
def pattern (inner : Inner) : Reader Pattern := do
  let tokens ← get
  if startsPathPattern tokens then pathPattern inner
  else if startsWord "_" tokens then return ⟨← word "_", false⟩
  else if startsWord "box" tokens then
    let intro ← word "box"
    return ⟨intro ++ (← inner.pattern).tokens, false⟩
  else if startsLiteral tokens || startsWord "const" tokens then
    let first ← patternBound inner
    if ← sees (startsMark "..") then patternRangeFrom inner first else return ⟨first, false⟩
  else if startsName tokens || startsWord "ref" tokens || startsWord "mut" tokens ||
      startsWord "self" tokens then
    return ⟨← namePattern inner, false⟩
  else if startsMark "&" tokens then
    let sign ← mark "&"
    let kind ← optionalWord "mut"
    return ⟨sign ++ kind ++ (← inner.pattern).tokens, false⟩
  else if startsGroup .round tokens then
    return ⟨[.group .round (← inside .round (patternList inner))], false⟩
  else if startsGroup .square tokens then
    return ⟨[.group .square (← inside .square (slicePatterns inner))], false⟩
  else if startsMark ".." tokens && !startsMark "..." tokens then openPatternRange inner
  else failure

/-- Reads a pattern with its alternatives, which a bar may stand before. -/
def alternatives (inner : Inner) : Reader Pattern := do
  let bar ← optionalMark "|"
  let first ← pattern inner
  let rest ← whileSees startsBar do
    let bar ← mark "|"
    return bar ++ (← pattern inner).tokens
  if bar.isEmpty && rest.isEmpty then return first
  else return ⟨bar ++ first.tokens ++ rest.flatten, false⟩

end Reader

end GuidAtlas.ErrorEnum
