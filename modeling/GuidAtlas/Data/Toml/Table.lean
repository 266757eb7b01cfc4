import GuidAtlas.Data.Value

/-!
Tables while configuration text is read. A key is given once. A header opens a table that no header
and no key has made, or goes on a list of tables; keys with dots do not add to tables that a header
has opened.
-/

namespace GuidAtlas.Toml

/-- How a table has come to be. -/
inductive Opening where
  | header
  /-- A header of a table inside it has passed through it. -/
  | passage
  | dottedKey
  deriving DecidableEq, Repr

/-- What stands at a key. Of a list of tables, the earlier ones stand with the latest in front. -/
inductive Entry where
  | value (v : Value)
  | table (opening : Opening) (members : List (Text × Entry))
  | rows (latest : List (Text × Entry)) (earlier : List (List (Text × Entry)))

abbrev Members := List (Text × Entry)

mutual

def Entry.toValue : Entry → Value
  | .value v => v
  | .table _ members => .table (valuesOf members)
  | .rows latest earlier => .list (tablesOf earlier [.table (valuesOf latest)])

def valuesOf : List (Text × Entry) → List (Text × Value)
  | [] => []
  | (key, entry) :: members => (key, entry.toValue) :: valuesOf members

/-- The tables in the order of their headers, before `later` ones. -/
def tablesOf : List (List (Text × Entry)) → (later : List Value) → List Value
  | [], later => later
  | row :: rows, later => tablesOf rows (.table (valuesOf row) :: later)

end

/-- The members inside what stands at a key, and what stands there after a change of them. -/
abbrev Inside := Members × (Members → Entry)

def throughHeader? : Option Entry → Option Inside
  | none => some ([], .table .passage)
  | some (.table opening members) => some (members, .table opening)
  | some (.rows latest earlier) => some (latest, fun latest => .rows latest earlier)
  | some (.value _) => none

def throughDots? : Option Entry → Option Inside
  | none => some ([], .table .dottedKey)
  | some (.table .header _) => none
  | some (.table opening members) => some (members, .table opening)
  | some _ => none

def change? (through : Option Entry → Option Inside) (f : Option Entry → Option Entry) :
    (path : List Text) → Members → Option Members
  | [], _ => none
  | [key], members => do
    let entry ← f (members.lookup key)
    return Directory.insertInto key entry members
  | key :: path, members => do
    let (inner, rebuild) ← through (members.lookup key)
    let inner ← change? through f path inner
    return Directory.insertInto key (rebuild inner) members

def assign? (path : List Text) (value : Value) (members : Members) : Option Members :=
  change? throughDots? (fun old => if old.isNone then some (.value value) else none) path members

/-- `assign?` in the table of a header, or outside of all for the empty one. -/
def assignUnder? (header path : List Text) (value : Value) (members : Members) : Option Members :=
  if header.isEmpty then assign? path value members
  else change? throughHeader? (fun old => do
    let (inner, rebuild) ← throughHeader? old
    let inner ← assign? path value inner
    return rebuild inner) header members

def openTable? (path : List Text) (members : Members) : Option Members :=
  change? throughHeader? (fun
    | none => some (.table .header [])
    | some (.table .passage members) => some (.table .header members)
    | some _ => none) path members

def openRow? (path : List Text) (members : Members) : Option Members :=
  change? throughHeader? (fun
    | none => some (.rows [] [])
    | some (.rows latest earlier) => some (.rows [] (latest :: earlier))
    | some _ => none) path members

end GuidAtlas.Toml
