import GuidAtlas.Text.Basic

/-!
Tokens of source text. Brackets hold the tokens between them, and marks know whether the next one
follows at once.
-/

namespace GuidAtlas.ErrorEnum

open Text

inductive Delimiter where
  | round
  | square
  | curly
  deriving DecidableEq, Repr

namespace Delimiter

def opening : Delimiter → Char
  | round => '('
  | square => '['
  | curly => '\x7b'

def closing : Delimiter → Char
  | round => ')'
  | square => ']'
  | curly => '\x7d'

def all : List Delimiter := [round, square, curly]

end Delimiter

inductive Token where
  /-- A keyword or a name; a raw name keeps its mark. -/
  | name (t : Text)
  /-- A lifetime without its quote. -/
  | lifetime (t : Text)
  | mark (c : Char) (joint : Bool)
  | literal (t : Text)
  | group (delimiter : Delimiter) (inner : List Token)
  deriving Repr

abbrev Tokens := List Token

mutual

def Token.text : Token → Text
  | .name t => t ++ [' ']
  | .lifetime t => '\x27' :: t ++ [' ']
  | .mark c true => [c]
  | .mark c false => [c, ' ']
  | .literal t => t ++ [' ']
  | .group delimiter inner =>
    delimiter.opening :: ' ' :: textOf inner ++ [delimiter.closing, ' ']

/-- The source text of tokens, with blanks between those that need not be joined. -/
def textOf : Tokens → Text
  | [] => []
  | token :: tokens => token.text ++ textOf tokens

end

mutual

def Token.count : Token → Nat
  | .group _ inner => countOf inner + 1
  | _ => 1

def countOf : Tokens → Nat
  | [] => 0
  | token :: tokens => token.count + countOf tokens

end

def comma : Token := .mark ',' false

end GuidAtlas.ErrorEnum
