import GuidAtlas.Data.Json
import GuidAtlas.Data.Toml
import GuidAtlas.Fault
import GuidAtlas.Logging.Event
import GuidAtlas.Settings.Layered
import GuidAtlas.Storage.Tree
import GuidAtlas.Text.Utf8

/-!
Settings loaded from a configuration file and the environment.
-/

namespace GuidAtlas.Settings

open Text Storage Logging

inductive LoadFault where
  | config
  | malformedFile
  deriving DecidableEq, Repr

instance : FaultKind LoadFault where
  title
    | .config => "Config error"
    | .malformedFile => "Config error"

def defaultFile : Path := "guidex"

inductive FileFormat where
  | toml
  | json
  deriving DecidableEq, Repr

def FileFormat.ofExtension? (extension : Text) : Option FileFormat :=
  if extension = "toml".toList then some .toml
  else if extension = "json".toList then some .json
  else none

def FileFormat.parse? : FileFormat → Text → Option (List (Text × Value))
  | .toml, t => Toml.parse? t
  | .json, t =>
    match Json.parse? t with
    | some (.table members) => some members
    | _ => none

/-- The file that a path stands for: itself, or itself with an extension added. -/
def locate (tree : Tree) (path : Path) : Except Text (Path × FileFormat) :=
  if tree.isFile path then
    match ((Path.fileName? path).bind Path.extension?).bind FileFormat.ofExtension? with
    | some format => .ok (path, format)
    | none =>
      .error ("configuration file \"" ++ path ++ "\" is not of a supported file format")
  else
    let bare := trimEndOf (· = '/') path
    let candidates : List (Path × FileFormat) :=
      [(bare ++ ".toml", .toml), (bare ++ ".json", .json)]
    match candidates.find? fun (candidate, _) => !bare.isEmpty && tree.isFile candidate with
    | some found => .ok found
    | none => .error ("configuration file \"" ++ path ++ "\" not found")

def originOf (path : Path) : Text :=
  join ['/'] ((splitAt '/' path).filter fun part => !part.isEmpty && part ≠ ['.'])

def buildContext : Text := "Failed to build config"

def convertContext : Text := "Failed to deserialize config"

def readFile (tree : Tree) (path : Path) (required : Bool) :
    Except (Fault LoadFault) (List (Text × Value) × Text) :=
  match locate tree path with
  | .error text =>
    if required then .error ⟨.config, text, some buildContext⟩ else .ok ([], [])
  | .ok (file, format) =>
    match tree.read file with
    | .error error =>
      if required then .error ⟨.config, error.message, some buildContext⟩ else .ok ([], [])
    | .ok bytes =>
      let bytes := match bytes with
        | 0xEF :: 0xBB :: 0xBF :: rest => rest
        | bytes => bytes
      match format.parse? (decodeLossy bytes) with
      | none => .error ⟨.malformedFile, originOf file, some buildContext⟩
      | some members => .ok (members, originOf file)

/-! The environment. -/

def variableStart : Text := "guidex__"

def keyOfVariable? (name : Text) : Option Text :=
  (afterStart? variableStart (lower name)).map (replace "__" ".")

/-- Settings that are written as lists with commas. -/
def listKeys : List Text := ["export.formats", "scan.subfolders"]

def integer64? (t : Text) : Option Int :=
  (Binary64.signedInteger? t).filter fun n => -0x8000000000000000 ≤ n ∧ n < 0x8000000000000000

/-- The value of a variable: a truth value, an integer, a number, a list or a text. -/
def valueOfVariable (key t : Text) : Value :=
  if lower t = "true".toList then .bool true
  else if lower t = "false".toList then .bool false
  else match integer64? t, Binary64.parse? t with
    | some n, _ => .integer n
    | none, some x => .float x
    | none, none => if listKeys.elem key then .list ((splitAt ',' t).map .text) else .text t

def variableMembers (env : List (Text × Text)) : List (Text × Value) :=
  env.filterMap fun (name, t) =>
    (keyOfVariable? name).map fun key => (key, valueOfVariable key t)

def variableOrigin : Text := "the environment"

/-- Settings from a file, which has to be there if a path is given, and the environment. -/
def load (tree : Tree) (path : Option Path) (env : List (Text × Text)) :
    Except (Fault LoadFault) Settings := do
  let (members, origin) ← readFile tree (path.getD defaultFile) path.isSome
  let fromFile := Sourced.layer origin (.table [] none) members
  match Layered.settings (Sourced.layer variableOrigin fromFile (variableMembers env)) with
  | .ok settings => return settings
  | .error fault => .error ⟨.config, fault.message, some convertContext⟩

def loadEvent (path : Option Path) : Event :=
  match path with
  | some path => ⟨.info, "Loading config from " ++ path, []⟩
  | none => ⟨.debug, "Looking for optional config '" ++ defaultFile ++ "'", []⟩

end GuidAtlas.Settings
