import GuidAtlas.Directory
import GuidAtlas.Number.Binary64

/-!
Values of data files. The members of a table are in the order of their keys.
-/

namespace GuidAtlas

inductive Value where
  | null
  | bool (b : Bool)
  | integer (n : Int)
  | float (x : Binary64)
  | text (t : Text)
  | list (items : List Value)
  | table (members : List (Text × Value))
  deriving Inhabited

namespace Value

/-- A table of members of which the last one with a key counts. -/
def ofMembers (members : List (Text × Value)) : Value :=
  .table (members.foldl (fun (directory : Directory Value) (key, value) =>
    directory.insert key value) .empty).entries

def member? (value : Value) (key : Text) : Option Value :=
  match value with
  | .table members => members.lookup key
  | _ => none

end Value

end GuidAtlas
