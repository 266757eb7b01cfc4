import GuidAtlas.Text.Basic

/-!
The places that dotted keys with subscripts lead to, as in `scan.subfolders[0]`.
-/

namespace GuidAtlas

open Text

/-- A step from a node of the settings to a node below it. Negative indices count from the end. -/
inductive KeyStep where
  | member (key : Text)
  | item (index : Int)
  deriving DecidableEq, Repr

namespace KeyPath

def isNameChar (c : Char) : Bool := (c.toNat < 128 && c.isAlphanum) || c = '_' || c = '-'

def isBlank (c : Char) : Bool := c = ' ' || c = '\t'

def name? (t : Text) : Option (Text × Text) :=
  match t.takeWhile isNameChar with
  | [] => none
  | name => some (name, t.dropWhile isNameChar)

def subscript? (t : Text) : Option (Int × Text) := do
  let t := t.dropWhile isBlank
  let (negative, t) := match t with
    | '-' :: t => (true, t)
    | t => (false, t)
  let n ← number? 10 (t.takeWhile Char.isDigit)
  let t ← afterStart? "]" ((t.dropWhile Char.isDigit).dropWhile isBlank)
  let index : Int := if negative then -n else n
  if -0x8000000000000000 ≤ index ∧ index < 0x8000000000000000 then some (index, t) else none

def stepsFrom? : (fuel : Nat) → Text → Option (List KeyStep)
  | _, [] => some []
  | 0, _ => none
  | fuel + 1, '.' :: t => do
    let (name, t) ← name? t
    return .member name :: (← stepsFrom? fuel t)
  | fuel + 1, '[' :: t => do
    let (index, t) ← subscript? t
    return .item index :: (← stepsFrom? fuel t)
  | _, _ => none

def parse? (t : Text) : Option (List KeyStep) := do
  let (name, t) ← name? t
  return .member name :: (← stepsFrom? t.length t)

/-- A text that is no path is one key. -/
def ofKey (key : Text) : List KeyStep := (parse? key).getD [.member key]

end KeyPath

end GuidAtlas
