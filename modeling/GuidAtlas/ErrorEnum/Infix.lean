import GuidAtlas.ErrorEnum.Reader

/-!
Signs between operands, and how tightly each holds the operands beside it.
-/

namespace GuidAtlas.ErrorEnum

open Text

/-- How tightly an operation holds its operands, from loose to tight. -/
inductive Binding where
  | assignment
  | range
  | either
  | both
  | comparison
  | bitOr
  | bitXor
  | bitAnd
  | shift
  | sum
  | product
  | cast
  deriving DecidableEq, Repr

namespace Binding

def rank : Binding → Nat
  | assignment => 0
  | range => 1
  | either => 2
  | both => 3
  | comparison => 4
  | bitOr => 5
  | bitXor => 6
  | bitAnd => 7
  | shift => 8
  | sum => 9
  | product => 10
  | cast => 11

/-- The loosest operation that the right operand may be. Only assignments nest to the right. -/
def right : Binding → Binding
  | assignment => assignment
  | range => either
  | either => both
  | both => comparison
  | comparison => bitOr
  | bitOr => bitXor
  | bitXor => bitAnd
  | bitAnd => shift
  | shift => sum
  | sum => product
  | product => cast
  | cast => cast

end Binding

def infixSigns : List (Text × Binding) :=
  [("<<=", .assignment), (">>=", .assignment), ("+=", .assignment), ("-=", .assignment),
    ("*=", .assignment), ("/=", .assignment), ("%=", .assignment), ("^=", .assignment),
    ("&=", .assignment), ("|=", .assignment), ("&&", .both), ("||", .either), ("<<", .shift),
    (">>", .shift), ("==", .comparison), ("<=", .comparison), ("!=", .comparison),
    (">=", .comparison), ("+", .sum), ("-", .sum), ("*", .product), ("/", .product),
    ("%", .product), ("^", .bitXor), ("&", .bitAnd), ("|", .bitOr), ("<", .comparison),
    (">", .comparison), ("=", .assignment), ("..=", .range), ("..", .range)]

/-- The sign that tokens start with. An arrow and three points are none. -/
def infixSign? (tokens : Tokens) : Option (Text × Binding) :=
  if tokens.startsMark "=>" || tokens.startsMark "..." then none
  else infixSigns.find? fun (sign, _) => tokens.startsMark sign

end GuidAtlas.ErrorEnum
