import GuidAtlas.Directory
import GuidAtlas.Guid.Basic

/-!
The catalog of interfaces: the GUIDs of each name, the name each GUID resolves to, and the GUIDs
that were declared under unrelated names.
-/

namespace GuidAtlas

open Text

/-- Words that can stand where a name is expected. -/
def reservedNames : List Text :=
  ["struct", "class", "enum", "null", "DWORD", "__int64", "long", "__declspec"]

/-- Factories that no public header declares. -/
def undocumentedInterfaces : List (Text × Text) :=
  [("343BAA78-E34F-466C-9FFA-81AF5CE4CD34",
      "ABI.Windows.Internal.Security.SmartScreen.IAppReputationServiceFactory"),
    ("3EAD2336-B073-456F-BCAF-82587EB63487", "ABI.Windows.UI.Xaml.Hosting.IXamlIslandFactory"),
    ("DE27A01F-B561-4531-A278-FD012679EF1E",
      "ABI.Windows.Internal.Holographic.UI.IHolographicViewPropertiesFactory")]

inductive Rejection where
  | invalidGuid (guid : Text)
  | invalidName (guid name : Text)
  deriving DecidableEq, Repr

def Rejection.message : Rejection → Text
  | .invalidGuid guid => "Invalid GUID '" ++ guid ++ "'"
  | .invalidName guid name => "Invalid name '" ++ name ++ "' for GUID " ++ guid

/-- Puts `I` after the last dot outside template arguments, unless the name starts with that dot. -/
def withInterfaceMark (name : Text) : Text :=
  match cutLast? "." (name.takeWhile (· ≠ '<')) with
  | some (c :: path, last) => c :: path ++ ".I" ++ last ++ name.dropWhile (· ≠ '<')
  | _ => name

/-- Whether a name extends another one, or the interface name of the runtime class it names. -/
def extendsName (longer shorter : Text) : Bool :=
  contains longer shorter || contains longer (withInterfaceMark shorter)

structure Catalog where
  /-- The GUIDs of a name, newest first. -/
  guids : Directory (List Text)
  names : Directory Text
  /-- The names of a GUID that was declared under unrelated names, newest first. -/
  clashes : Directory (List Text)

/-- A name with one of its GUIDs. -/
structure Entry where
  guid : Text
  name : Text
  ambiguity : Option (List Text)
  deriving DecidableEq, Repr

namespace Catalog

def empty : Catalog := ⟨.empty, .empty, .empty⟩

def appendNew (names : List Text) (name : Text) : List Text :=
  if names.elem name then names else names ++ [name]

/-- A declaration as the catalog takes it, if it does. -/
def accept (guid name : Text) : Except Rejection (Text × Text) :=
  let guid := upper (Guid.stripDecoration guid)
  let name := trimOf (fun c => c = '"' || c = ' ') name
  if !Guid.isCanonical guid then .error (.invalidGuid guid)
  else if name.length < 2 || reservedNames.elem name then .error (.invalidName guid name)
  else .ok (guid, name)

def bind (catalog : Catalog) (guid name : Text) : Catalog :=
  let known := (catalog.guids.get? name).getD []
  { catalog with
    names := catalog.names.insert guid name
    guids := catalog.guids.insert name (if known.elem guid then known else guid :: known) }

def recordClash (catalog : Catalog) (guid name existing : Text) : Catalog :=
  let names := (catalog.clashes.get? guid).getD []
  { catalog with
    clashes := catalog.clashes.insert guid (appendNew (appendNew names name) existing) }

/-- Adds an accepted declaration. Of related names the longer one is kept; unrelated names make the
GUID ambiguous, and the newest is its name. -/
def insert (catalog : Catalog) (guid name : Text) : Catalog :=
  match catalog.names.get? guid with
  | none => catalog.bind guid name
  | some existing =>
    if extendsName existing name then catalog.bind guid existing
    else if extendsName name existing then catalog.bind guid name
    else (catalog.recordClash guid name existing).bind guid name

def add (catalog : Catalog) (guid name : Text) : Except Rejection Catalog :=
  (accept guid name).map fun (guid, name) => catalog.insert guid name

def addOrKeep (catalog : Catalog) (guid name : Text) : Catalog :=
  match catalog.add guid name with
  | .ok next => next
  | .error _ => catalog

def addUndocumented (catalog : Catalog) : Catalog :=
  undocumentedInterfaces.foldl (fun catalog (guid, name) => catalog.addOrKeep guid name) catalog

def undocumented : Catalog := empty.addUndocumented

def size (catalog : Catalog) : Nat := catalog.guids.size

def guidCount (catalog : Catalog) : Nat := catalog.names.size

def isEmpty (catalog : Catalog) : Bool := catalog.guids.size = 0

def nameOf? (catalog : Catalog) (guid : Text) : Option Text := catalog.names.get? (upper guid)

def ambiguity? (catalog : Catalog) (guid : Text) : Option (List Text) :=
  catalog.clashes.get? (upper guid)

/-- All rows in the order of the names, those of a name newest first. -/
def entries (catalog : Catalog) : List Entry :=
  catalog.guids.entries.flatMap fun (name, guids) =>
    guids.map fun guid => ⟨guid, name, catalog.clashes.get? guid⟩

end Catalog

end GuidAtlas
