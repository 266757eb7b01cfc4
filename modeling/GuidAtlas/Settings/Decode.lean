import GuidAtlas.Data.Value
import GuidAtlas.Settings.Basic
import GuidAtlas.Text.Quoted

/-!
Settings read from plain data. What is missing keeps its standard value, what is unknown is passed
over, and a record may also be written as the list of its fields.
-/

namespace GuidAtlas

open Text

inductive DecodeFault where
  | wrongType (found : Value) (expected : Text)
  | outOfRange (n : Int) (expected : Text)
  | severalKeys
  | tooLong (length : Nat)
  | unknownFormat (name : Text)

namespace DecodeFault

def describe : Value → Text
  | .null => "null"
  | .bool b => "boolean `" ++ (if b then "true" else "false" : String).toList ++ "`"
  | .integer n => "integer `" ++ decimalOfInt n ++ "`"
  | .float x => "floating point `" ++ x.scientificText ++ "`"
  | .text t => "string " ++ quoted t
  | .list _ => "sequence"
  | .table _ => "map"

def message : DecodeFault → Text
  | .wrongType found expected => "invalid type: " ++ describe found ++ ", expected " ++ expected
  | .outOfRange n expected =>
    "invalid value: integer `" ++ decimalOfInt n ++ "`, expected " ++ expected
  | .severalKeys => "invalid value: map, expected map with a single key"
  | .tooLong length =>
    "invalid length " ++ decimal length ++ ", expected fewer elements in array"
  | .unknownFormat name =>
    "unknown variant `" ++ name ++ "`, expected one of " ++
      "`ini`, `xml`, `htm`, `html`, `rs`, `rust`"

end DecodeFault

namespace Decode

abbrev Result := Except DecodeFault

def bool : Value → Result Bool
  | .bool b => .ok b
  | v => .error (.wrongType v "a boolean")

def natural32 : Value → Result Nat
  | .integer n =>
    if 0 ≤ n ∧ n < 0x100000000 then .ok n.toNat else .error (.outOfRange n "u32")
  | v => .error (.wrongType v "u32")

def text : Value → Result Text
  | .text t => .ok t
  | v => .error (.wrongType v "a string")

def path : Value → Result Text
  | .text t => .ok t
  | v => .error (.wrongType v "path string")

def optionalPath : Value → Result (Option Text)
  | .null => .ok none
  | v => (path v).map some

def list {α : Type} (item : Value → Result α) : Value → Result (List α)
  | .list items => items.mapM item
  | v => .error (.wrongType v "a sequence")

def unit : Value → Result Unit
  | .null => .ok ()
  | v => .error (.wrongType v "unit")

def formatOfName (name : Text) : Result ExportFormat :=
  match ExportFormat.ofName? name with
  | some format => .ok format
  | none => .error (.unknownFormat name)

/-- A format is its name, or a table with the name as its only key and nothing for a value. -/
def format : Value → Result ExportFormat
  | .text name => formatOfName name
  | .table [(name, content)] => do
    let format ← formatOfName name
    unit content
    return format
  | .table _ => .error .severalKeys
  | v => .error (.wrongType v "string or map")

structure Field (ρ : Type) where
  name : Text
  set : ρ → Value → Result ρ

def setMembers {ρ : Type} (fields : List (Field ρ)) (record : ρ) :
    List (Text × Value) → Result ρ
  | [] => .ok record
  | (key, value) :: members =>
    match fields.find? (·.name = key) with
    | some field => do setMembers fields (← field.set record value) members
    | none => setMembers fields record members

def setItems {ρ : Type} (record : ρ) : List (Field ρ) → List Value → Result ρ
  | field :: fields, value :: values => do setItems (← field.set record value) fields values
  | _, _ => .ok record

def record {ρ : Type} (name : Text) (fields : List (Field ρ)) (standard : ρ) : Value → Result ρ
  | .table members => setMembers fields standard members
  | .list items => do
    let record ← setItems standard fields items
    if fields.length < items.length then .error (.tooLong items.length) else .ok record
  | v => .error (.wrongType v ("struct " ++ name))

def field {ρ α : Type} (name : Text) (decode : Value → Result α) (put : ρ → α → ρ) : Field ρ :=
  ⟨name, fun record value => (decode value).map (put record)⟩

def scan : Value → Result ScanSettings :=
  record "ScanSettings"
    [field "sdk_path" path fun s x => { s with sdkPath := x },
      field "sdk_build" natural32 fun s x => { s with sdkBuild := x },
      field "only_winrt" bool fun s x => { s with onlyWinrt := x },
      field "subfolders" (list text) fun s x => { s with subfolders := x }] .standard

def output : Value → Result ExportSettings :=
  record "ExportSettings"
    [field "output_dir" path fun s x => { s with outputDir := x },
      field "formats" (list format) fun s x => { s with formats := x }] .standard

def logging : Value → Result LoggingSettings :=
  record "LoggingSettings"
    [field "level" text fun s x => { s with level := x },
      field "path" optionalPath fun s x => { s with path := x },
      field "json" bool fun s x => { s with json := x }] .standard

def settings : Value → Result Settings :=
  record "Settings"
    [field "scan" scan fun s x => { s with scan := x },
      field "export" output fun s x => { s with output := x },
      field "logging" logging fun s x => { s with logging := x }] .standard

end Decode

end GuidAtlas
