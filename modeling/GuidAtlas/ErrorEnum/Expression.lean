import GuidAtlas.ErrorEnum.Literal
import GuidAtlas.ErrorEnum.TypeGrammar

/-!
Expressions: operands with signs before and between them. Operations are not built, but what may
stand beside what depends on how tightly their signs hold.
-/

namespace GuidAtlas.ErrorEnum

open Text

/-- What decides which signs may follow an operand. -/
inductive OperandKind where
  | plain
  | comparison
  | range
  deriving DecidableEq, Repr

structure Operand where
  tokens : Tokens
  kind : OperandKind := .plain

namespace Reader

open Tokens

/-! What stands in brackets. -/

def expressionList (inner : Inner) : Reader Tokens := do
  return listed id (← commaList List.isEmpty inner.expression)

/-- What stands in square brackets: a list of items, or one item and how often it is repeated. -/
def squareExpression (inner : Inner) : Reader Tokens := do
  if (← get).isEmpty then return []
  let first ← inner.expression
  if ← sees (startsMark ";") then
    let semicolon ← mark ";"
    return first ++ semicolon ++ (← inner.expression)
  else if ← sees (startsMark ",") then
    let sign ← mark ","
    return first ++ sign ++ (← expressionList inner)
  else return first

/-! Members of values. -/

def place (t : Text) : Reader Tokens :=
  match Literal.wholeNumber? t with
  | some n => if n < 4294967296 then return [.literal (decimal n)] else failure
  | none => failure

def recordMember : Reader Tokens := do
  match ← token with
  | .name w => if keywords.elem w then failure else return [.name w]
  | .literal t => place t
  | _ => failure

/-- A member with a name, which may be a method that is called, or the word that waits for a
result. -/
def namedMember (inner : Inner) : Reader Tokens := do
  if ← sees (startsWord "await") then word "await"
  else
    let w ← name
    let arguments ← when (startsMark "::") do
      let arguments ← inner.angle
      if ← sees (startsGroup .round) then return arguments.1 else failure
    return .name w :: arguments

def startsNamedMember (tokens : Tokens) : Bool := startsName tokens || startsWord "await" tokens

/-- Places with points between them, which look like one number. A member follows a point at the
end. -/
def placesFrom (inner : Inner) (point : Tokens) : List Text → Reader Tokens
  | [] => failure
  | [t] => do
    if !t.isEmpty then place t
    else if ← sees startsNamedMember then namedMember inner
    else recordMember
  | t :: rest => do
    let first ← place t
    return first ++ point ++ (← placesFrom inner point rest)

def memberAccess (inner : Inner) : Reader Tokens := do
  let point ← mark "."
  if ← sees startsNamedMember then return point ++ (← namedMember inner)
  else
    match ← token with
    | .literal t => return point ++ (← placesFrom inner point (splitAt '.' t))
    | _ => failure

def startsPoint (tokens : Tokens) : Bool := startsMark "." tokens && !startsMark ".." tokens

def application (inner : Inner) : Reader Tokens := do
  let tokens ← get
  if startsGroup .round tokens then
    return [.group .round (← inside .round (expressionList inner))]
  else if startsGroup .square tokens then
    return [.group .square (← inside .square inner.expression)]
  else if startsMark "?" tokens then mark "?"
  else memberAccess inner

def startsApplication (tokens : Tokens) : Bool :=
  startsGroup .round tokens || startsGroup .square tokens || startsMark "?" tokens ||
    startsPoint tokens

def applications (inner : Inner) : Reader Tokens := do
  return (← whileSees startsApplication (application inner)).flatten

/-! Paths, records and macros. -/

/-- The fields of a record that is built, up to the end or to what the other fields are taken
from. -/
def recordFieldsFrom (inner : Inner) : (fuel : Nat) → Reader Tokens
  | 0 => failure
  | fuel + 1 => do
    if (← get).isEmpty then return []
    if ← sees (startsMark "..") then
      let sign ← mark ".."
      if (← get).isEmpty then return sign else return sign ++ (← inner.expression)
    let attributes ← attributes inner.expression
    let isPlace ← sees fun tokens => !startsName tokens
    let member ← recordMember
    let value ← if isPlace || (← sees (startsMark ":")) then do
        let colon ← mark ":"
        pure (colon ++ (← inner.expression))
      else pure []
    let field := attributeTokens attributes ++ member ++ value
    if (← get).isEmpty then return field
    let sign ← mark ","
    return field ++ sign ++ (← recordFieldsFrom inner fuel)

def recordFields (inner : Inner) : Reader Tokens := do
  recordFieldsFrom inner ((← get).length + 1)

def pathExpression (inner : Inner) (structures : Bool) : Reader Tokens := do
  let path ← anyPath inner true
  let tokens ← get
  if path.isMacroName && startsMark "!" tokens && !startsMark "!=" tokens then
    let bang ← mark "!"
    return path.tokens ++ bang ++ (← anyGroup)
  else if structures && startsGroup .curly tokens then
    return path.tokens ++ [.group .curly (← inside .curly (recordFields inner))]
  else return path.tokens

/-! What is made of blocks. -/

/-- A choice, with all that it goes on with if its condition does not hold. -/
def choiceFrom (inner : Inner) : (fuel : Nat) → Reader Tokens
  | 0 => failure
  | fuel + 1 => do
    let intro ← word "if"
    let condition ← inner.condition
    let block ← inner.block false
    let otherwise ← when (startsWord "else") do
      let w ← word "else"
      let rest ← if ← sees (startsWord "if") then choiceFrom inner fuel else inner.block false
      return w ++ rest
    return intro ++ condition ++ block ++ otherwise

def choice (inner : Inner) : Reader Tokens := do
  choiceFrom inner ((← get).length + 1)

def innerAttributes (inner : Inner) : Reader Tokens := do
  let attributes ← whileSees (fun tokens =>
      startsMark "#" tokens && startsMark "!" (tokens.drop 1)) do
    let sign ← mark "#"
    let bang ← mark "!"
    let body ← inside .square (attributeBody inner.expression)
    return sign ++ bang ++ [.group .square body.tokens]
  return attributes.flatten

/-- A case of a distinction. A comma has to separate it from the next unless it ends with a
block. -/
def branch (inner : Inner) : Reader Tokens := do
  let attributes ← attributes inner.expression
  let pattern ← inner.alternatives
  let guard ← when (startsWord "if") do
    let intro ← word "if"
    return intro ++ (← inner.expression)
  let arrow ← mark "=>"
  let (body, separated) ← inner.body
  let isLast ← sees List.isEmpty
  let sign ← if separated && !isLast then mark "," else optionalMark ","
  return attributeTokens attributes ++ pattern.tokens ++ guard ++ arrow ++ body ++ sign

def cases (inner : Inner) : Reader Tokens := do
  let start ← innerAttributes inner
  return start ++ (← whileSees (!·.isEmpty) (branch inner)).flatten

def distinction (inner : Inner) : Reader Tokens := do
  let intro ← word "match"
  let condition ← inner.condition
  return intro ++ condition ++ [.group .curly (← inside .curly (cases inner))]

def loopOver (inner : Inner) : Reader Tokens := do
  let intro ← word "for"
  let pattern ← inner.alternatives
  let source ← word "in"
  let condition ← inner.condition
  return intro ++ pattern.tokens ++ source ++ condition ++ (← inner.block true)

def loopWhile (inner : Inner) : Reader Tokens := do
  let intro ← word "while"
  let condition ← inner.condition
  return intro ++ condition ++ (← inner.block true)

def labeled (inner : Inner) : Reader Tokens := do
  let label ← when startsLifetime do
    let label ← lifetimeToken
    return label ++ (← mark ":")
  let body ←
    if ← sees (startsWord "while") then loopWhile inner
    else if ← sees (startsWord "for") then loopOver inner
    else
      let intro ← optionalWord "loop"
      pure (intro ++ (← inner.block true))
  return label ++ body

/-- Whether parameters in angle brackets follow, and not a path that starts from a type. -/
def startsParameters (tokens : Tokens) : Bool :=
  let rest := tokens.drop 1
  startsMark "<" tokens &&
    (startsMark ">" rest || startsMark "#" rest || startsWord "const" rest ||
      ((startsLifetime rest || startsName rest) &&
        (startsMark ">" (rest.drop 1) || startsMark "," (rest.drop 1) ||
          (startsMark ":" (rest.drop 1) && !startsMark "::" (rest.drop 1)) ||
          startsMark "=" (rest.drop 1))))

/-- Whether the tokens start an expression that may stand as a statement without a semicolon. -/
def startsBlock (tokens : Tokens) : Bool :=
  startsWord "if" tokens || startsWord "while" tokens ||
    (startsWord "for" tokens && !startsParameters (tokens.drop 1)) || startsWord "loop" tokens ||
    startsWord "match" tokens ||
    (startsWord "try" tokens && startsGroup .curly (tokens.drop 1)) ||
    startsWord "unsafe" tokens ||
    (startsWord "const" tokens && startsGroup .curly (tokens.drop 1)) ||
    startsGroup .curly tokens || startsLifetime tokens

def blockExpression (inner : Inner) : Reader Tokens := do
  let tokens ← get
  if startsWord "if" tokens then choice inner
  else if startsWord "match" tokens then distinction inner
  else if startsWord "try" tokens then return (← word "try") ++ (← inner.block false)
  else if startsWord "unsafe" tokens then return (← word "unsafe") ++ (← inner.block true)
  else if startsWord "const" tokens then return (← word "const") ++ (← inner.block true)
  else labeled inner

/-! Functions without a name. -/

def startsFunction (tokens : Tokens) : Bool :=
  let rest := tokens.drop 1
  startsMark "|" tokens || startsWord "move" tokens ||
    (startsWord "for" tokens && startsParameters rest) ||
    (startsWord "const" tokens && !startsGroup .curly rest) || startsWord "static" tokens ||
    (startsWord "async" tokens && (startsMark "|" rest || startsWord "move" rest))

def functionParameter (inner : Inner) : Reader Tokens := do
  let attributes ← attributes inner.expression
  let pattern ← inner.pattern
  let type ← when (startsMark ":") do
    let colon ← mark ":"
    return colon ++ (← inner.type true).tokens
  return attributeTokens attributes ++ pattern.tokens ++ type

def functionExpression (inner : Inner) (structures : Bool) : Reader Tokens := do
  let lifetimes ← optionalLifetimesFor inner
  let words ← do
    let constant ← optionalWord "const"
    let static ← optionalWord "static"
    let async ← optionalWord "async"
    pure (constant ++ static ++ async ++ (← optionalWord "move"))
  let opening ← mark "|"
  let parameters ← commaList (startsMark "|") (functionParameter inner)
  let closing ← mark "|"
  let start := lifetimes ++ words ++ opening ++ listed id parameters ++ closing
  if ← sees (startsMark "->") then
    let arrow ← mark "->"
    let type ← inner.type true
    return start ++ arrow ++ type.tokens ++ (← inner.block false)
  else return start ++ (← inner.operation structures .assignment)

/-! Ranges and what leaves a block. -/

def startsExpression (tokens : Tokens) : Bool :=
  ((word? tokens).isSome && !startsWord "as" tokens) || startsGroup .round tokens ||
    startsGroup .square tokens || startsGroup .curly tokens || startsLiteral tokens ||
    (startsMark "!" tokens && !startsMark "!=" tokens) ||
    (startsMark "-" tokens && !startsMark "-=" tokens && !startsMark "->" tokens) ||
    (startsMark "*" tokens && !startsMark "*=" tokens) ||
    (startsMark "|" tokens && !startsMark "|=" tokens) ||
    (startsMark "&" tokens && !startsMark "&=" tokens) || startsMark ".." tokens ||
    (startsMark "<" tokens && !startsMark "<=" tokens && !startsMark "<<=" tokens) ||
    startsMark "::" tokens || startsLifetime tokens || startsMark "#" tokens

def rangeEnds : List Text :=
  [",", ";", "?", "=", "+", "/", "%", "^", ">", "<=", "!=", "-=", "*=", "&=", "|=", "<<="]

def endsRange (structures : Bool) (tokens : Tokens) : Bool :=
  tokens.isEmpty || rangeEnds.any (startsMark · tokens) || startsPoint tokens ||
    (!structures && startsGroup .curly tokens) || startsWord "as" tokens

/-- The second end of a range, behind its sign; a closed range has one. -/
def rangeEnd (inner : Inner) (structures isClosed : Bool) : Reader Tokens := do
  if !isClosed && (← sees (endsRange structures)) then return []
  else inner.operation structures Binding.range.right

def rangeFromStart (inner : Inner) (structures : Bool) : Reader Tokens := do
  let isClosed ← sees (startsMark "..=")
  let sign ← if isClosed then mark "..=" else mark ".."
  return sign ++ (← rangeEnd inner structures isClosed)

def breakExpression (inner : Inner) (structures : Bool) : Reader Tokens := do
  let intro ← word "break"
  let label ← when startsLifetime lifetimeToken
  if !label.isEmpty && (← sees (startsMark ":")) then failure
  let value ← when
    (fun tokens => startsExpression tokens && (structures || !startsGroup .curly tokens))
    (inner.operation structures .assignment)
  return intro ++ label ++ value

def leaving (inner : Inner) (w : Text) : Reader Tokens := do
  let intro ← word w
  return intro ++ (← when startsExpression inner.expression)

/-! Operands and operations. -/

def letCondition (inner : Inner) (structures : Bool) : Reader Tokens := do
  let intro ← word "let"
  let pattern ← inner.alternatives
  let sign ← mark "="
  return intro ++ pattern.tokens ++ sign ++ (← inner.operation structures .comparison)

def plainOperand (inner : Inner) (structures : Bool) : Reader Tokens := do
  let tokens ← get
  let rest := tokens.drop 1
  if startsLiteral tokens then return [← token]
  else if startsWord "async" tokens &&
      (startsGroup .curly rest ||
        (startsWord "move" rest && startsGroup .curly (rest.drop 1))) then
    let intro ← word "async"
    let kind ← optionalWord "move"
    return intro ++ kind ++ (← inner.block false)
  else if startsWord "try" tokens && startsGroup .curly rest then blockExpression inner
  else if startsFunction tokens then functionExpression inner structures
  else if startsWord "builtin" tokens && startsMark "#" rest then
    let intro ← word "builtin"
    let sign ← mark "#"
    let name ← name
    return intro ++ sign ++ .name name :: (← group .round)
  else if startsPathWord tokens || startsMark "::" tokens || startsMark "<" tokens ||
      (startsWord "try" tokens && (startsMark "!" rest || startsMark "::" rest)) then
    pathExpression inner structures
  else if startsGroup .round tokens then
    return [.group .round (← inside .round (expressionList inner))]
  else if startsWord "break" tokens then breakExpression inner structures
  else if startsWord "continue" tokens then
    let intro ← word "continue"
    return intro ++ (← when startsLifetime lifetimeToken)
  else if startsWord "return" tokens then leaving inner "return"
  else if startsWord "yield" tokens then leaving inner "yield"
  else if startsWord "become" tokens then
    return (← word "become") ++ (← inner.expression)
  else if startsGroup .square tokens then
    return [.group .square (← inside .square (squareExpression inner))]
  else if startsWord "let" tokens then letCondition inner structures
  else if startsWord "_" tokens then word "_"
  else if startsBlock tokens then blockExpression inner
  else failure

def appliedOperand (inner : Inner) (structures : Bool) : Reader Operand := do
  if ← sees (startsMark "..") then
    return { tokens := ← rangeFromStart inner structures, kind := .range }
  else
    let operand ← plainOperand inner structures
    return { tokens := operand ++ (← applications inner) }

def borrowed : Reader Tokens := do
  let tokens ← get
  let kind := tokens.drop 1
  if startsWord "raw" tokens && (startsWord "mut" kind || startsWord "const" kind) then
    return (← word "raw") ++ [← token]
  else optionalWord "mut"

def startsSign (tokens : Tokens) : Bool :=
  startsMark "*" tokens || startsMark "!" tokens || startsMark "-" tokens

def signedOperandFrom (inner : Inner) (structures : Bool) : (fuel : Nat) → Reader Operand
  | 0 => failure
  | fuel + 1 => do
    let attributes ← attributes inner.expression
    let start := attributeTokens attributes
    if ← sees (startsMark "&") then
      let sign ← mark "&"
      let kind ← borrowed
      let operand ← signedOperandFrom inner structures fuel
      return { tokens := start ++ sign ++ kind ++ operand.tokens }
    else if ← sees startsSign then
      let sign ← token
      let operand ← signedOperandFrom inner structures fuel
      return { tokens := start ++ sign :: operand.tokens }
    else
      let operand ← appliedOperand inner structures
      if !attributes.isEmpty && operand.kind = .range then failure
      else return { operand with tokens := start ++ operand.tokens }

def signedOperand (inner : Inner) (structures : Bool) : Reader Operand := do
  signedOperandFrom inner structures ((← get).length + 1)

/-- Reads the type that a value is cast to. Nothing may be applied to the value after that. -/
def castTarget (inner : Inner) : Reader Tokens := do
  let intro ← word "as"
  let type ← inner.type false
  if ← sees startsApplication then failure else return intro ++ type.tokens

/-- Goes on behind an operand with signs that hold at least as tightly as `least`. Nothing goes on
behind a range, and comparisons do not chain. -/
def operationFrom (inner : Inner) (structures : Bool) (least : Binding) :
    (fuel : Nat) → Operand → Reader Operand
  | 0, _ => failure
  | fuel + 1, operand => do
    if operand.kind = .range then return operand
    let tokens ← get
    match infixSign? tokens with
    | none =>
      if startsWord "as" tokens then
        let target ← castTarget inner
        operationFrom inner structures least fuel { tokens := operand.tokens ++ target }
      else return operand
    | some (sign, binding) =>
      if binding.rank < least.rank then return operand
      else if binding = .comparison && operand.kind = .comparison then failure
      else
        let seen ← mark sign
        let start := operand.tokens ++ seen
        let next ← match binding with
          | .range =>
            let rest ← rangeEnd inner structures (sign.length = 3)
            pure { tokens := start ++ rest, kind := .range }
          | .comparison =>
            let right ← inner.operation structures binding.right
            pure { tokens := start ++ right, kind := .comparison }
          | _ =>
            let right ← inner.operation structures binding.right
            pure { tokens := start ++ right }
        operationFrom inner structures least fuel next

def continued (inner : Inner) (structures : Bool) (least : Binding) (operand : Operand) :
    Reader Tokens := do
  return (← operationFrom inner structures least ((← get).length + 1) operand).tokens

def operation (inner : Inner) (structures : Bool) (least : Binding) : Reader Tokens := do
  continued inner structures least (← signedOperand inner structures)

/-- Reads an expression that ends early if it begins with a block, and whether it has to be
separated from what follows. -/
def body (inner : Inner) : Reader (Tokens × Bool) := do
  let attributes ← attributes inner.expression
  let start := attributeTokens attributes
  if ← sees startsBlock then
    let block ← blockExpression inner
    if ← sees fun tokens => startsPoint tokens || startsMark "?" tokens then
      let applied := block ++ (← applications inner)
      return (start ++ (← continued inner true .assignment { tokens := applied }), true)
    else return (start ++ block, false)
  else return (start ++ (← operation inner true .assignment), true)

end Reader

end GuidAtlas.ErrorEnum
