import GuidAtlas.Export.Page
import GuidAtlas.Fault
import GuidAtlas.Logging.Event
import GuidAtlas.Storage.Tree
import GuidAtlas.Text.Utf8

/-!
Writing databases: the names of their files and what happens in the output directory.
-/

namespace GuidAtlas.Export

open Text Storage Logging

inductive ExportFault where
  | io
  | format
  | internal
  deriving DecidableEq, Repr

instance : FaultKind ExportFault where
  title
    | .io => "I/O error"
    | .format => "Formatting error"
    | .internal => "Internal export error"

/-- The first build of a release, newest release first. -/
def releases : List (Nat × Text) := [(22000, "11"), (10000, "10"), (0, "8")]

def releaseOf (build : Nat) : Text :=
  ((releases.find? fun (first, _) => first ≤ build).map (·.2)).getD []

def windowsVersion (build : Nat) : Text :=
  "Windows " ++ releaseOf build ++ " (Build " ++ decimal build ++ ")"

def setName (onlyWinrt : Bool) : Text := if onlyWinrt then "WinRT Interfaces" else "All Interfaces"

def classSetName : Text := "WinRT Activatable Classes"

def fileName (build : Nat) (set : Text) (format : ExportFormat) : Text :=
  windowsVersion build ++ " " ++ set ++ "." ++ format.extension

/-- What became of a piece of work that may write files: its result, the files afterwards and the
events it reported. -/
structure Written (α : Type) where
  result : Except (Fault ExportFault) α
  tree : Tree
  events : List Event

def ioFault (context : Text) (error : StorageError) : Fault ExportFault :=
  ⟨.io, error.message, some context⟩

def formatFault : Fault ExportFault :=
  { kind := .format, detail := "an error occurred when formatting an argument" }

/-- Writes pages one after the other, up to the first that fails. -/
def writePages (tree : Tree) : List (Path × Text) → Written (List Path)
  | [] => ⟨.ok [], tree, []⟩
  | (path, page) :: pages =>
    match tree.write path (encode page) with
    | .error error => ⟨.error (ioFault ("Writing " ++ path) error), tree, []⟩
    | .ok tree =>
      let rest := writePages tree pages
      ⟨rest.result.map (path :: ·), rest.tree, ⟨.info, "Exported", [("path", path)]⟩ :: rest.events⟩

/-- Writes pages into a directory, which is made if it is missing. -/
def writeInto (tree : Tree) (directory : Path) (pages : List (Path × Text)) :
    Written (List Path) :=
  match tree.makeDirectories directory with
  | .error error => ⟨.error (ioFault ("Creating " ++ directory) error), tree, []⟩
  | .ok tree => writePages tree pages

structure Exporter where
  directory : Path
  build : Nat
  onlyWinrt : Bool

namespace Exporter

def fileName (exporter : Exporter) (format : ExportFormat) : Text :=
  Export.fileName exporter.build (setName exporter.onlyWinrt) format

def filePath (exporter : Exporter) (format : ExportFormat) : Path :=
  exporter.directory.join (exporter.fileName format)

def title (exporter : Exporter) : Text :=
  setName exporter.onlyWinrt ++ " - Windows GUID Database"

def comment (exporter : Exporter) (catalog : Catalog) : Text :=
  decimal catalog.size ++ " interfaces automatically extracted from the " ++
    windowsVersion exporter.build ++ " SDK header files"

def render (exporter : Exporter) (catalog : Catalog) (format : ExportFormat) : Text :=
  interfacePage format ⟨exporter.title, exporter.comment catalog⟩ catalog.entries

/-- Writes one file for each format, none for an empty catalog. -/
def write (exporter : Exporter) (catalog : Catalog) (formats : List ExportFormat) (tree : Tree) :
    Written (List Path) :=
  if catalog.isEmpty then
    ⟨.ok [], tree, [⟨.warn, "No interfaces found, nothing to export", []⟩]⟩
  else
    writeInto tree exporter.directory
      (formats.map fun format => (exporter.filePath format, exporter.render catalog format))

end Exporter

structure ClassExporter where
  directory : Path
  build : Nat

namespace ClassExporter

def fileName (exporter : ClassExporter) (format : ExportFormat) : Text :=
  Export.fileName exporter.build classSetName format

def comment (exporter : ClassExporter) (classes : ActivatableClasses) : Text :=
  decimal classes.size ++ " Activatable Classes automatically extracted from the " ++
    windowsVersion exporter.build ++ " Registry"

def render (exporter : ClassExporter) (classes : ActivatableClasses) (format : ExportFormat) :
    Except (Fault ExportFault) Text :=
  match classPage? format ⟨classSetName, exporter.comment classes⟩ classes.groups with
  | some page => .ok page
  | none => .error { kind := .internal, detail := "Activatable classes have no Rust table" }

def writeFormats (exporter : ClassExporter) (classes : ActivatableClasses) (tree : Tree) :
    List ExportFormat → Written (List Path)
  | [] => ⟨.ok [], tree, []⟩
  | format :: formats =>
    match exporter.render classes format with
    | .error _ =>
      let rest := writeFormats exporter classes tree formats
      { rest with
        events := ⟨.warn, "Activatable classes have no Rust table, skipping",
          [("format", format.name)]⟩ :: rest.events }
    | .ok page =>
      let path := exporter.directory.join (exporter.fileName format)
      let one := writePages tree [(path, page)]
      match one.result with
      | .error _ => one
      | .ok paths =>
        let rest := writeFormats exporter classes one.tree formats
        ⟨rest.result.map (paths ++ ·), rest.tree, one.events ++ rest.events⟩

/-- Writes one file for each format but the source table, none without classes. -/
def write (exporter : ClassExporter) (classes : ActivatableClasses) (formats : List ExportFormat)
    (tree : Tree) : Written (List Path) :=
  if classes.isEmpty then
    ⟨.ok [], tree, [⟨.warn, "No activatable classes found, nothing to export", []⟩]⟩
  else match tree.makeDirectories exporter.directory with
    | .error error => ⟨.error (ioFault ("Creating " ++ exporter.directory) error), tree, []⟩
    | .ok tree => exporter.writeFormats classes tree formats

end ClassExporter

end GuidAtlas.Export
