import GuidAtlas.Directory
import GuidAtlas.Fault
import GuidAtlas.Guid.Basic
import GuidAtlas.Logging.Event
import GuidAtlas.Lookup.IniDocument
import GuidAtlas.Storage.Tree
import GuidAtlas.Text.Utf8

/-!
Names looked up in an exported database. Keys are compared in normal form, and the first entry of a
key counts.
-/

namespace GuidAtlas.Lookup

open Text Storage Logging

inductive LookupFault where
  | ini
  | missingSection
  | internal
  deriving DecidableEq, Repr

instance : FaultKind LookupFault where
  title
    | .ini => "INI database error"
    | .missingSection => "Missing section"
    | .internal => "Internal lookup error"

def databaseSection : Text := "All Interfaces"

def isDatabaseSection (name : Text) : Bool := sameIgnoringAsciiCase (trim name) databaseSection

/-- Names by normalized keys, of which the first entry counts. -/
def indexFirst (entries : List (Text × Text)) : Directory Text :=
  entries.foldl (fun names (key, value) =>
    let key := Guid.normalizeKey key
    match names.get? key with
    | some _ => names
    | none => names.insert key (trim value)) .empty

structure Database where
  path : Path
  names : Directory Text

namespace Database

def size (database : Database) : Nat := database.names.size

def isEmpty (database : Database) : Bool := database.names.size = 0

def nameOf? (database : Database) (guid : Text) : Option Text :=
  database.names.get? (Guid.normalizeKey guid)

def interfaceName (database : Database) (guid : Text) : Text :=
  (database.nameOf? guid).getD guid

def withoutMark (t : Text) : Text :=
  match t with
  | '\uFEFF' :: t => t
  | t => t

def ofText (path : Path) (t : Text) : Except (Fault LookupFault) Database :=
  match readItems (withoutMark t) with
  | .error fault => .error ⟨.ini, fault.message, some ("Reading " ++ path)⟩
  | .ok items =>
    match sectionEntries? isDatabaseSection items with
    | none => .error ⟨.missingSection, "[" ++ databaseSection ++ "]", some path⟩
    | some entries => .ok ⟨path, indexFirst entries⟩

def load (tree : Tree) (path : Path) : Except (Fault LookupFault) Database :=
  match tree.read path with
  | .error error => .error ⟨.ini, error.message, some ("Reading " ++ path)⟩
  | .ok bytes =>
    match decode? bytes with
    | none => .error ⟨.ini, "stream did not contain valid UTF-8", some ("Reading " ++ path)⟩
    | some t => ofText path t

def loadEvents : Except (Fault LookupFault) Database → List Event
  | .ok database =>
    [⟨.debug, "Loaded interface database",
      [("path", database.path), ("entries", decimal database.size)]⟩]
  | .error _ => []

/-- One query to the database at a path, which never fails: without the database every GUID stands
for itself. -/
def query (tree : Tree) (path : Path) (guid : Text) : Text × List Event :=
  match load tree path with
  | .ok database => (database.interfaceName guid, loadEvents (.ok database))
  | .error fault =>
    (guid, [⟨.warn, "Interface database unavailable, returning GUID unchanged",
      [("err", fault.message)]⟩])

end Database

end GuidAtlas.Lookup
