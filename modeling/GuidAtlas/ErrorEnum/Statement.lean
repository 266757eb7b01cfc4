import GuidAtlas.ErrorEnum.Pattern

/-!
Blocks and the statements in them. Items that a block declares are read up to their end and no
further checked.
-/

namespace GuidAtlas.ErrorEnum

open Text

namespace Reader

open Tokens

/-- Words that items start with, whatever follows. -/
def itemWords : List Text :=
  ["pub", "extern", "use", "fn", "mod", "type", "struct", "enum", "trait", "impl", "macro"]

/-- Words between `const` or `async` and the word of a function. -/
def functionWords : List Text := ["unsafe", "extern", "fn"]

def startsAny (words : List Text) (tokens : Tokens) : Bool := (word? tokens).any words.elem

def startsConstantItem (tokens : Tokens) : Bool :=
  let rest := tokens.drop 1
  startsWord "const" tokens &&
    !(startsGroup .curly rest || startsWord "static" rest || startsWord "move" rest ||
      startsMark "|" rest || (startsWord "async" rest && !startsAny functionWords (rest.drop 1)))

def startsStaticItem (tokens : Tokens) : Bool :=
  let rest := tokens.drop 1
  startsWord "static" tokens && (startsWord "mut" rest || startsName rest)

/-- A macro that declares something under a name. -/
def startsNamingMacro (tokens : Tokens) : Bool :=
  startsName tokens && startsMark "!" (tokens.drop 1) &&
    (startsName (tokens.drop 2) || startsWord "try" (tokens.drop 2))

def startsItem (tokens : Tokens) : Bool :=
  let rest := tokens.drop 1
  startsAny itemWords tokens || startsConstantItem tokens || startsStaticItem tokens ||
    startsNamingMacro tokens || (startsWord "crate" tokens && !startsMark "::" rest) ||
    (startsWord "unsafe" tokens && !startsGroup .curly rest) ||
    (startsWord "async" tokens && startsAny functionWords rest) ||
    (startsWord "union" tokens && startsName rest) ||
    (startsWord "auto" tokens && startsWord "trait" rest) ||
    (startsWord "default" tokens && startsAny ["unsafe", "impl"] rest)

/-- The tokens of an item, up to its first curly bracket or semicolon. -/
def item : Reader Tokens := do
  let start ← whileSees
    (fun tokens => !tokens.isEmpty && !startsGroup .curly tokens && !startsMark ";" tokens) token
  return start ++ [← token]

/-- A macro with a curly bracket that stands as a statement, if nothing is applied to its value. -/
def startsMacroStatement (tokens : Tokens) : Bool :=
  match plainPath tokens with
  | some (_, rest) =>
    startsMark "!" rest && startsGroup .curly (rest.drop 1) &&
      !startsPoint (rest.drop 2) && !startsMark "?" (rest.drop 2)
  | none => false

def macroStatement : Reader Tokens := do
  let path ← plainPath
  let bang ← mark "!"
  return path.tokens ++ bang ++ (← group .curly)

def endsWithBlock (tokens : Tokens) : Bool :=
  match tokens.getLast? with
  | some (.group .curly _) => true
  | _ => false

def localVariable (inner : Inner) : Reader Tokens := do
  let intro ← word "let"
  let pattern ← inner.pattern
  let type ← when (startsMark ":") do
    let colon ← mark ":"
    return colon ++ (← inner.type true).tokens
  let value ← when (startsMark "=") do
    let sign ← mark "="
    let value ← inner.expression
    let otherwise ← when (fun tokens => !endsWithBlock value && startsWord "else" tokens) do
      let w ← word "else"
      return w ++ (← inner.block false)
    return sign ++ value ++ otherwise
  return intro ++ pattern.tokens ++ type ++ value ++ (← mark ";")

/-- A statement, and whether it has to be separated from what follows. -/
def statement (inner : Inner) : Reader (Tokens × Bool) := do
  let attributes ← attributes inner.expression
  let start := attributeTokens attributes
  let tokens ← get
  if startsMacroStatement tokens then return (start ++ (← macroStatement), false)
  else if startsWord "let" tokens then return (start ++ (← localVariable inner), false)
  else if startsItem tokens then return (start ++ (← item), false)
  else
    let (tokens, separated) ← inner.body
    if ← sees (startsMark ";") then return (start ++ tokens ++ (← mark ";"), false)
    else return (start ++ tokens, separated)

def statementsFrom (inner : Inner) : (fuel : Nat) → Reader Tokens
  | 0 => failure
  | fuel + 1 => do
    let semicolons ← whileSees (startsMark ";") (mark ";")
    if (← get).isEmpty then return semicolons.flatten
    let (statement, separated) ← statement inner
    if (← get).isEmpty then return semicolons.flatten ++ statement
    else if separated then failure
    else return semicolons.flatten ++ statement ++ (← statementsFrom inner fuel)

def block (inner : Inner) (attributed : Bool) : Reader Tokens := do
  let content ← inside .curly do
    let start ← if attributed then innerAttributes inner else pure []
    return start ++ (← statementsFrom inner ((← get).length + 1))
  return [.group .curly content]

end Reader

end GuidAtlas.ErrorEnum
