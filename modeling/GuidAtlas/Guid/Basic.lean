import GuidAtlas.Text.Blank
import GuidAtlas.Text.Case

/-!
Written GUIDs: five groups of hexadecimal digits with dashes between them.
-/

namespace GuidAtlas.Guid

open Text

def isHexDigit (c : Char) : Bool := (digitValue? c).isSome

def afterDigits? : Nat → Text → Option Text
  | 0, t => some t
  | _ + 1, [] => none
  | n + 1, c :: t => if isHexDigit c then afterDigits? n t else none

def groupSizes : List Nat := [8, 4, 4, 4, 12]

def afterGroups? : List Nat → Text → Option Text
  | [], t => some t
  | [n], t => afterDigits? n t
  | n :: sizes, t => do
    let rest ← afterDigits? n t
    afterGroups? sizes (← afterStart? ['-'] rest)

def isCanonical (t : Text) : Bool := afterGroups? groupSizes t = some []

/-- The first written GUID in a text, with what stands before it. -/
def first? : Text → Option (Text × Text)
  | [] => none
  | c :: t =>
    match afterGroups? groupSizes (c :: t) with
    | some _ => some ([], (c :: t).take 36)
    | none => (first? t).map fun (before, guid) => (c :: before, guid)

def normalizeKey (t : Text) : Text := upper (trim t)

/-- A GUID as typed or quoted, without the quotes, spaces and braces around it. -/
def stripDecoration (t : Text) : Text :=
  trimOf (fun c => c = '"' || c = ' ' || c = '{' || c = '}') t

end GuidAtlas.Guid
