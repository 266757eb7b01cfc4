import GuidAtlas.CommandLine.Options
import GuidAtlas.Export.Writer
import GuidAtlas.Guid.Basic
import GuidAtlas.Logging.Logger
import GuidAtlas.Lookup.Registry
import GuidAtlas.Scan.Sdk
import GuidAtlas.Settings.Load

/-!
What a run of the program does: it loads the settings, starts a logger and carries out a command. A
failure is reported together with its causes.
-/

namespace GuidAtlas.CommandLine

open Text Storage Logging

structure Failure where
  message : Text
  causes : List Text

namespace Failure

/-- Lines after the first one are set in under it. -/
def setIn (start indent cause : Text) : Text :=
  '\n' :: start ++ join ('\n' :: indent) (splitAt '\n' cause)

def numbered : (index : Nat) → List Text → Text
  | _, [] => []
  | index, cause :: causes =>
    let number := decimal index
    setIn (List.replicate (5 - number.length) ' ' ++ number ++ ": ") "       " cause ++
      numbered (index + 1) causes

def causesText : List Text → Text
  | [] => []
  | [cause] => "\n\nCaused by:" ++ setIn "    " "    " cause
  | causes => "\n\nCaused by:" ++ numbered 0 causes

def text (failure : Failure) : Text :=
  "Error: " ++ failure.message ++ causesText failure.causes ++ "\n"

/-- A fault under a message of its own. The detail of a fault that wraps another one is a further
cause. -/
def ofFault {κ : Type} [FaultKind κ] (message : Text) (wraps : κ → Bool) (fault : Fault κ) :
    Failure :=
  ⟨message, fault.message :: if wraps fault.kind then [fault.detail] else []⟩

end Failure

def wrapsInLoad : Settings.LoadFault → Bool := fun _ => true

def wrapsInLogger : LoggerFault → Bool
  | .appender | .subscriber => true
  | _ => false

def wrapsInScan : Scan.ScanFault → Bool
  | .io | .walk => true
  | _ => false

def wrapsInExport : Export.ExportFault → Bool
  | .io | .format => true
  | .internal => false

structure Outcome where
  exit : Nat
  stdout : Text
  stderr : Text
  tree : Tree

/-- What a command leaves behind: its output or why it failed, and the files. -/
structure Result where
  output : Except Failure Text
  tree : Tree
  events : List Event

/-! Settings of the command line. -/

def applyOutput (given : Given) (settings : ExportSettings) : ExportSettings :=
  { outputDir := given.out.getD settings.outputDir
    formats := if given.formats.isEmpty then settings.formats else given.formats }

/-- A build also selects the place where the kit of the build is installed. -/
def applyScan (given : Given) (settings : ScanSettings) : ScanSettings :=
  { settings with
    sdkBuild := given.build.getD settings.sdkBuild
    sdkPath :=
      (given.sdk <|> given.build.map ScanSettings.defaultSdkPath).getD settings.sdkPath
    onlyWinrt := given.onlyWinrt || settings.onlyWinrt }

/-! Commands. -/

/-- The name of a GUID as it is typed, else that of the GUID without decoration, else what is
typed. -/
def resolve (interfaceName : Text → Text) (guid : Text) : Text :=
  let name := interfaceName guid
  let bare := Guid.stripDecoration guid
  if name ≠ guid || bare = guid then name
  else
    let name := interfaceName bare
    if name = bare then guid else name

def lookup (given : Given) (tree : Tree) : Result :=
  let guid := given.words.headD []
  let interfaceName (guid : Text) : Text := (Lookup.interfaceName tree given.database guid).1
  ⟨.ok (resolve interfaceName guid ++ "\n"), tree,
    (Lookup.interfaceName tree given.database guid).2⟩

def summary (report : Scan.Report) : Text :=
  decimal report.catalog.size ++ " interfaces, " ++ decimal report.catalog.guidCount ++
    " GUIDs from " ++ decimal report.files ++ " header files (" ++
    decimal report.diagnostics.length ++ " diagnostics)"

def scan (settings : Settings) (tree : Tree) : Result :=
  let events := Scan.events settings.scan tree
  match Scan.scan settings.scan tree with
  | .error fault =>
    ⟨.error (.ofFault ("Failed to scan " ++ settings.scan.sdkPath) wrapsInScan fault), tree, events⟩
  | .ok report =>
    let exporter : Export.Exporter :=
      ⟨settings.output.outputDir, settings.scan.sdkBuild, settings.scan.onlyWinrt⟩
    let written := exporter.write report.catalog settings.output.formats tree
    match written.result with
    | .error fault =>
      ⟨.error (.ofFault "Failed to export the interface database" wrapsInExport fault),
        written.tree, events ++ written.events⟩
    | .ok paths =>
      ⟨.ok (unlines (paths ++ [summary report])), written.tree, events ++ written.events⟩

/-- There is no registry to read classes from. -/
def classes (tree : Tree) : Result :=
  ⟨.error (.ofFault "Failed to read activatable classes" wrapsInScan Scan.registryUnavailable),
    tree, []⟩

def perform (invocation : Invocation) (settings : Settings) (tree : Tree) : Result :=
  let given := invocation.given
  match invocation.command with
  | .lookup => lookup given tree
  | .scan =>
    scan
      { settings with
        scan := applyScan given settings.scan
        output := applyOutput given settings.output } tree
  | .classes => classes tree

/-! Runs. -/

def programName : Text := "gdx"

def versionText : Text := "gdx 0.0.0\n"

def helpText : Text :=
  unlines
    ["Usage: gdx [OPTIONS] COMMAND", "",
      "  lookup GUID [--ini PATH]",
      "  scan [--sdk PATH] [--build N] [--winrt-only] [-o PATH] [-f FORMATS]",
      "  classes [--build N] [-o PATH] [-f FORMATS]", "",
      "Options: -c PATH, -v, -h, -V"]

def filterVariable : Text := "RUST_LOG"

def startLogger (settings : LoggingSettings) (env : List (Text × Text)) (stamp : Stamp)
    (tree : Tree) : Except Failure Logger × Tree :=
  match parseLevel settings.level with
  | .error fault => (.error ⟨fault.message, []⟩, tree)
  | .ok verbosity =>
    let config :=
      { LoggerConfig.standard programName with
        path := settings.path
        level := verbosity
        json := settings.path.isSome && settings.json }
    let (started, tree) := Logger.start config (env.lookup filterVariable) stamp false tree
    (started.mapError (.ofFault "Failed to initialize logging" wrapsInLogger), tree)

/-- What is said about the directives of the environment while a logger is started. -/
def startNotes (settings : LoggingSettings) (env : List (Text × Text)) : Text :=
  match parseLevel settings.level with
  | .error _ => []
  | .ok _ => Filter.notes ((env.lookup filterVariable).getD [])

def recordOf (target : Text) (event : Event) : Record :=
  ⟨target, event.level,
    event.message ++ event.fields.flatMap fun (key, value) => ' ' :: key ++ '=' :: value⟩

def targetOf : CommandName → Text
  | .lookup => "guidex_lookup"
  | _ => "guidex_scanner"

def failed (notes : Text) (failure : Failure) (tree : Tree) : Outcome :=
  ⟨1, [], notes ++ failure.text, tree⟩

def runInvocation (invocation : Invocation) (env : List (Text × Text)) (stamp : Stamp)
    (tree : Tree) : Outcome :=
  match Settings.load tree invocation.given.config env with
  | .error fault =>
    failed [] (.ofFault "Failed to load configuration" wrapsInLoad fault) tree
  | .ok settings =>
    let logging : LoggingSettings :=
      if invocation.given.verbose then { settings.logging with level := "debug" }
      else settings.logging
    let notes := startNotes logging env
    match startLogger logging env stamp tree with
    | (.error failure, tree) => failed notes failure tree
    | (.ok logger, tree) =>
      let result := perform invocation settings tree
      let records := result.events.map (recordOf (targetOf invocation.command))
      let tree := logger.close (records.foldl logger.log result.tree)
      match result.output with
      | .error failure => failed notes failure tree
      | .ok output => ⟨0, output, notes, tree⟩

def run (arguments : List Text) (env : List (Text × Text)) (stamp : Stamp) (tree : Tree) :
    Outcome :=
  match read arguments with
  | .error .usage => ⟨2, [], helpText, tree⟩
  | .error .help => ⟨0, helpText, [], tree⟩
  | .error .version => ⟨0, versionText, [], tree⟩
  | .ok invocation => runInvocation invocation env stamp tree

end GuidAtlas.CommandLine
