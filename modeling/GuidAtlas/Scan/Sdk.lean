import GuidAtlas.Fault
import GuidAtlas.Logging.Event
import GuidAtlas.Scan.Diagnostic
import GuidAtlas.Settings.Basic
import GuidAtlas.Storage.Tree
import GuidAtlas.Text.Utf16

/-!
A scan reads the headers in the folders of a development kit into a catalog.
-/

namespace GuidAtlas.Scan

open Text Storage Logging

inductive ScanFault where
  | sdkNotFound
  | registryUnavailable
  | io
  | walk
  | internal
  deriving DecidableEq, Repr

instance : FaultKind ScanFault where
  title
    | .sdkNotFound => "SDK not found"
    | .registryUnavailable => "Registry unavailable"
    | .io => "I/O error"
    | .walk => "Directory walk error"
    | .internal => "Internal scanner error"

/-- There is no registry to read activatable classes or a build from. -/
def registryUnavailable : Fault ScanFault :=
  ⟨.registryUnavailable, "activatable classes are only registered on Windows", some "HKLM"⟩

/-- Header text is UTF-16 after its byte order mark, and UTF-8 with or without a mark. -/
def decodeHeader : List UInt8 → Text
  | 0xFF :: 0xFE :: bytes => decode16 bytes
  | 0xEF :: 0xBB :: 0xBF :: bytes => decodeLossy bytes
  | bytes => decodeLossy bytes

def isHeaderName (name : Text) : Bool :=
  match Path.extension? name with
  | some extension => sameIgnoringAsciiCase extension "h"
  | none => false

/-- The header files of a folder by name, with their bytes. Links are no headers. -/
def headerFiles (tree : Tree) (folder : Path) : List (Text × List UInt8) :=
  (tree.list folder).filterMap fun (name, node) =>
    match node with
    | .file bytes => if isHeaderName name then some (name, bytes) else none
    | _ => none

structure ReadHeader where
  label : Text
  contents : Header.Contents

inductive Visit where
  | missing (folder : Path)
  | listed (subfolder : Text) (folder : Path) (headers : List ReadHeader)

def folderPath (root : Path) (subfolder : Text) : Path :=
  (splitAt '/' subfolder).foldl Path.join root

def visit (tree : Tree) (root : Path) (subfolder : Text) : Visit :=
  let folder := folderPath root subfolder
  if tree.isDirectory folder then
    .listed subfolder folder ((headerFiles tree folder).map fun (name, bytes) =>
      ⟨subfolder ++ "/" ++ name,
        Header.read (ScanSettings.isWinrtFolder subfolder) (decodeHeader bytes)⟩)
  else .missing folder

def Visit.headers : Visit → List ReadHeader
  | .missing _ => []
  | .listed _ _ headers => headers

structure Report where
  catalog : Catalog
  files : Nat
  diagnostics : List Diagnostic

namespace Report

def addDeclaration (file : Text) (report : Report) (declaration : Header.Declaration) : Report :=
  match report.catalog.add declaration.guid declaration.name with
  | .ok catalog => { report with catalog := catalog }
  | .error rejection =>
    { report with
      diagnostics := report.diagnostics ++ [⟨file, declaration.line, .rejected rejection⟩] }

def addHeader (report : Report) (header : ReadHeader) : Report :=
  let report := header.contents.declarations.foldl (addDeclaration header.label) report
  { report with
    files := report.files + 1
    diagnostics := report.diagnostics ++ header.contents.diagnostics header.label }

def ofHeaders (headers : List ReadHeader) : Report :=
  let report := headers.foldl addHeader ⟨.empty, 0, []⟩
  { report with catalog := report.catalog.addUndocumented }

end Report

def Visit.events : Visit → List Event
  | .missing folder => [⟨.warn, "SDK subfolder not found, skipping", [("folder", folder)]⟩]
  | .listed subfolder folder headers =>
    [⟨.info, "Parsing SDK header files", [("subfolder", subfolder)]⟩,
      ⟨.debug, "Listed header files",
        [("folder", folder), ("headers", decimal headers.length)]⟩]

def Report.events (report : Report) : List Event :=
  report.diagnostics.map (fun diagnostic => ⟨.warn, diagnostic.message, []⟩) ++
    [⟨.info, "SDK scan finished",
      [("files", decimal report.files), ("interfaces", decimal report.catalog.size),
        ("guids", decimal report.catalog.guidCount),
        ("diagnostics", decimal report.diagnostics.length)]⟩]

def visits (settings : ScanSettings) (tree : Tree) : Except (Fault ScanFault) (List Visit) :=
  if tree.isDirectory settings.sdkPath then
    .ok (settings.effectiveSubfolders.map (visit tree settings.sdkPath))
  else .error ⟨.sdkNotFound, settings.sdkPath, some "scan.sdk_path"⟩

def scan (settings : ScanSettings) (tree : Tree) : Except (Fault ScanFault) Report :=
  (visits settings tree).map fun visits => Report.ofHeaders (visits.flatMap Visit.headers)

def events (settings : ScanSettings) (tree : Tree) : List Event :=
  match visits settings tree with
  | .error _ => []
  | .ok visits =>
    visits.flatMap Visit.events ++ (Report.ofHeaders (visits.flatMap Visit.headers)).events

end GuidAtlas.Scan
