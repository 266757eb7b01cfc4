import GuidAtlas.Data.Value
import GuidAtlas.Settings.Decode
import GuidAtlas.Settings.KeyPath

/-!
Settings laid over each other: a later source replaces single values of an earlier one. Values
remember the source they came from, and texts, numbers and truth values stand in for one another.
-/

namespace GuidAtlas

open Text

/-- A value whose parts know their origin; what is made on the way to other parts has none. -/
inductive Sourced where
  | leaf (value : Value) (origin : Option Text)
  | list (items : List Sourced) (origin : Option Text)
  | table (members : List (Text × Sourced)) (origin : Option Text)

namespace Sourced

def null : Sourced := .leaf .null none

def origin : Sourced → Option Text
  | .leaf _ origin | .list _ origin | .table _ origin => origin

mutual

def ofValue (origin : Text) : Value → Sourced
  | .list items => .list (ofItems origin items) origin
  | .table members => .table (ofMembers origin members) origin
  | value => .leaf value origin

def ofItems (origin : Text) : List Value → List Sourced
  | [] => []
  | item :: items => ofValue origin item :: ofItems origin items

def ofMembers (origin : Text) : List (Text × Value) → List (Text × Sourced)
  | [] => []
  | (key, value) :: members => (key, ofValue origin value) :: ofMembers origin members

end

mutual

def toValue : Sourced → Value
  | .leaf value _ => value
  | .list items _ => .list (toItems items)
  | .table members _ => .table (toMembers members)

def toItems : List Sourced → List Value
  | [] => []
  | item :: items => toValue item :: toItems items

def toMembers : List (Text × Sourced) → List (Text × Value)
  | [] => []
  | (key, node) :: members => (key, toValue node) :: toMembers members

end

/-- The members and the origin of a table; any other node gives way to a new table. -/
def asTable : Sourced → List (Text × Sourced) × Option Text
  | .table members origin => (members, origin)
  | _ => ([], none)

/-- The items and the origin of a list; any other node gives way to a new list. -/
def asList : Sourced → List Sourced × Option Text
  | .list items origin => (items, origin)
  | _ => ([], none)

def member (members : List (Text × Sourced)) (key : Text) : Sourced :=
  (members.lookup key).getD null

mutual

/-- The node after a value from `source` is laid over it; tables are joined. -/
def overlay (source : Text) (node : Sourced) : Value → Sourced
  | .table values =>
    let (members, origin) := node.asTable
    .table (overlayAll source members values) origin
  | value => ofValue source value

def overlayAll (source : Text) (members : List (Text × Sourced)) :
    List (Text × Value) → List (Text × Sourced)
  | [] => members
  | (key, value) :: values =>
    overlayAll source
      (Directory.insertInto key (overlay source (member members key) value) members) values

end

/-- A list with room for an item at an index, and the place of that item. Too short a list grows at
its end, or for a negative index at its start. -/
def withRoom (items : List Sourced) : Int → List Sourced × Nat
  | .ofNat i => (items ++ List.replicate (i + 1 - items.length) null, i)
  | .negSucc i => (List.replicate (i + 1 - items.length) null ++ items, items.length - (i + 1))

def changeAt (f : Sourced → Sourced) : List KeyStep → Sourced → Sourced
  | [], node => f node
  | .member key :: path, node =>
    let (members, origin) := node.asTable
    .table (Directory.insertInto key (changeAt f path (member members key)) members) origin
  | .item index :: path, node =>
    let (items, origin) := node.asList
    let (items, place) := withRoom items index
    .list (items.set place (changeAt f path (items.getD place null))) origin

/-- Lays the members of a source, whose keys are paths, over what the sources before it made. -/
def layer (source : Text) (node : Sourced) (members : List (Text × Value)) : Sourced :=
  members.foldl (fun node (key, value) =>
    changeAt (fun old => overlay source old value) (KeyPath.ofKey key) node) node

end Sourced

/-- A value that a setting cannot be made of: the text about it, the key of the setting and, if the
value itself is at fault, where it comes from. -/
structure SettingFault where
  text : Text
  key : Text
  origin : Option Text

namespace SettingFault

def message (fault : SettingFault) : Text :=
  fault.text ++ " for key `" ++ fault.key ++ "`" ++
    match fault.origin with
    | some origin => " in " ++ origin
    | none => []

def describe : Value → Text
  | .null => "unit value"
  | .bool b => DecodeFault.describe (.bool b)
  | .integer n => "64-bit integer `" ++ decimalOfInt n ++ "`"
  | .float x => "floating point `" ++ x.text ++ "`"
  | .text t => "string " ++ quoted t
  | .list _ => "sequence"
  | .table _ => "map"

/-- How a value is called where a list or a record is wanted. -/
def describePlain : Value → Text
  | .null => "unit value"
  | .float x => "floating point `" ++ x.pointedText ++ "`"
  | value => DecodeFault.describe value

def wrongType (found expected : Text) : Text :=
  "invalid type: " ++ found ++ ", expected " ++ expected

end SettingFault

/-! Conversion of nodes to settings; the key says where the node stands. -/
namespace Layered

abbrev Convert (α : Type) := (key : Text) → Sourced → Except SettingFault α

def ofValue {α : Type} (convert : Value → Except Text α) : Convert α := fun key node =>
  match convert node.toValue with
  | .ok a => .ok a
  | .error text => .error ⟨text, key, node.origin⟩

def refuse {α : Type} (expected : Text) (value : Value) : Except Text α :=
  .error (SettingFault.wrongType (SettingFault.describe value) expected)

def truthOfName? (name : Text) : Option Bool :=
  if (["true", "on", "yes"] : List Text).elem name then some true
  else if (["false", "off", "no"] : List Text).elem name then some false
  else none

def boolOf : Value → Except Text Bool
  | .bool b => .ok b
  | .integer n => .ok (n ≠ 0)
  | .float x => .ok (!x.isZero)
  | .text t =>
    let name := lower t
    if name = ['1'] then .ok true
    else if name = ['0'] then .ok false
    else match truthOfName? name with
      | some b => .ok b
      | none => refuse "a boolean" (.text name)
  | value => refuse "a boolean" value

def bool : Convert Bool := ofValue boolOf

def greatest64 : Nat := 0xFFFFFFFFFFFFFFFF

def naturalOf : Value → Except Text Nat
  | .bool b => .ok b.toNat
  | .integer n =>
    if 0 ≤ n then .ok n.toNat
    else refuse "an unsigned 64 bit or less integer" (.integer n)
  | .float x => .ok (x.roundTo greatest64)
  | .text t =>
    match truthOfName? (lower t) with
    | some b => .ok b.toNat
    | none =>
      match signedNumber? 10 t with
      | some n => if n ≤ greatest64 then .ok n else refuse "an integer" (.text t)
      | none => refuse "an integer" (.text t)
  | value => refuse "an integer" value

def natural32 : Convert Nat := fun key node => do
  let n ← ofValue naturalOf key node
  if n < 0x100000000 then .ok n
  else .error ⟨SettingFault.wrongType ("64-bit unsigned integer `" ++ decimal n ++ "`")
    "an unsigned 32 bit integer", key, none⟩

def textOf : Value → Except Text Text
  | .text t => .ok t
  | .bool b => .ok (if b then "true" else "false" : String).toList
  | .integer n => .ok (decimalOfInt n)
  | .float x => .ok x.text
  | value => refuse "a string" value

def text : Convert Text := ofValue textOf

def optionalText : Convert (Option Text) := fun key node =>
  match node with
  | .leaf .null _ => .ok none
  | node => (text key node).map some

def itemKey (key : Text) (index : Nat) : Text := key ++ "[" ++ decimal index ++ "]"

def itemsFrom {α : Type} (item : Convert α) (key : Text) :
    (index : Nat) → List Sourced → Except SettingFault (List α)
  | _, [] => .ok []
  | index, node :: nodes => do
    let a ← item (itemKey key index) node
    return a :: (← itemsFrom item key (index + 1) nodes)

def list {α : Type} (item : Convert α) : Convert (List α) := fun key node =>
  match node with
  | .list items _ => itemsFrom item key 0 items
  | node =>
    .error ⟨SettingFault.wrongType (SettingFault.describePlain node.toValue) "a sequence", key,
      none⟩

def formatOfName (key name : Text) : Except SettingFault ExportFormat :=
  match ExportFormat.ofName? name with
  | some format => .ok format
  | none =>
    .error ⟨"enum ExportFormat does not have variant constructor " ++ name, key, none⟩

def format : Convert ExportFormat := fun key node =>
  match node with
  | .leaf (.text name) _ => formatOfName key name
  | .table [(name, _)] _ => formatOfName key name
  | _ =>
    .error ⟨"value of enum ExportFormat should be represented by either string or table " ++
      "with exactly one key", key, none⟩

structure Field (ρ : Type) where
  name : Text
  set : ρ → (key : Text) → Sourced → Except SettingFault ρ

def field {ρ α : Type} (name : Text) (convert : Convert α) (put : ρ → α → ρ) : Field ρ :=
  ⟨name, fun record key node => (convert key node).map (put record)⟩

def innerKey (key name : Text) : Text := if key.isEmpty then name else key ++ "." ++ name

def setMembers {ρ : Type} (fields : List (Field ρ)) (key : Text) (record : ρ) :
    List (Text × Sourced) → Except SettingFault ρ
  | [] => .ok record
  | (name, node) :: members =>
    match fields.find? (·.name = name) with
    | some field => do
      setMembers fields key (← field.set record (innerKey key name) node) members
    | none => setMembers fields key record members

def setItems {ρ : Type} (key : Text) (record : ρ) :
    (index : Nat) → List (Field ρ) → List Sourced → Except SettingFault ρ
  | index, field :: fields, node :: nodes => do
    setItems key (← field.set record (itemKey key index) node) (index + 1) fields nodes
  | _, _, _ => .ok record

def record {ρ : Type} (name : Text) (fields : List (Field ρ)) (standard : ρ) : Convert ρ :=
  fun key node =>
    match node with
    | .table members _ => setMembers fields key standard members
    | .list items _ => setItems key standard 0 fields items
    | .leaf value _ =>
      .error ⟨SettingFault.wrongType (SettingFault.describePlain value) ("struct " ++ name), key,
        none⟩

def scanFields : List (Field ScanSettings) :=
  [field "sdk_path" text fun s x => { s with sdkPath := x },
    field "sdk_build" natural32 fun s x => { s with sdkBuild := x },
    field "only_winrt" bool fun s x => { s with onlyWinrt := x },
    field "subfolders" (list text) fun s x => { s with subfolders := x }]

def scan : Convert ScanSettings := record "ScanSettings" scanFields .standard

def outputFields : List (Field ExportSettings) :=
  [field "output_dir" text fun s x => { s with outputDir := x },
    field "formats" (list format) fun s x => { s with formats := x }]

def output : Convert ExportSettings := record "ExportSettings" outputFields .standard

def loggingFields : List (Field LoggingSettings) :=
  [field "level" text fun s x => { s with level := x },
    field "path" optionalText fun s x => { s with path := x },
    field "json" bool fun s x => { s with json := x }]

def logging : Convert LoggingSettings := record "LoggingSettings" loggingFields .standard

def settingsFields : List (Field Settings) :=
  [field "scan" scan fun s x => { s with scan := x },
    field "export" output fun s x => { s with output := x },
    field "logging" logging fun s x => { s with logging := x }]

def settings (node : Sourced) : Except SettingFault Settings :=
  record "Settings" settingsFields .standard [] node

end Layered

end GuidAtlas
