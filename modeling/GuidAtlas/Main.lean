import GuidAtlas.CommandLine.Run
import Std.Time.DateTime

/-!
The program. It fetches the files that a run may look at, carries out the run and stores what the
run has written. A scan takes the names of the header files of the kit from the standard input, one
a line.
-/

namespace GuidAtlas.Main

open Text Storage Logging

/-- Puts the file or the directory at a path into a tree, if there is one. -/
def fetch (tree : Tree) (path : Path) : IO Tree := do
  try
    let bytes ← IO.FS.readBinFile (String.ofList path)
    return tree.withNode path (.file bytes.toList)
  catch
    | .inappropriateType _ _ _ => return tree.withNode path .directory
    | _ => return tree

def fetchAll (tree : Tree) (paths : List Path) : IO Tree := paths.foldlM fetch tree

def variableNames : List String :=
  ["GUIDEX__SCAN__SDK_PATH", "GUIDEX__SCAN__SDK_BUILD", "GUIDEX__SCAN__ONLY_WINRT",
    "GUIDEX__SCAN__SUBFOLDERS", "GUIDEX__EXPORT__OUTPUT_DIR", "GUIDEX__EXPORT__FORMATS",
    "GUIDEX__LOGGING__LEVEL", "GUIDEX__LOGGING__PATH", "GUIDEX__LOGGING__JSON", "RUST_LOG"]

def environment : IO (List (Text × Text)) :=
  variableNames.filterMapM fun name => do
    return (← IO.getEnv name).map fun value => (name.toList, value.toList)

def twoDigits (n : Nat) : Text := if n < 10 then '0' :: decimal n else decimal n

def now : IO Stamp := do
  let time ← Std.Time.Timestamp.now
  let date := Std.Time.PlainDate.ofEpochDay time.toDaysSinceUnixEpoch
  let hour := time.toSecondsSinceUnixEpoch.val.toNat / 3600 % 24
  return ⟨decimal date.year.toInt.toNat ++ '-' :: twoDigits date.month.val.toNat ++
    '-' :: twoDigits date.day.val.toNat, twoDigits hour⟩

partial def inputLines (input : IO.FS.Stream) : IO (List Text) := do
  let line ← input.getLine
  if line.isEmpty then return []
  return trimEnd line.toList :: (← inputLines input)

def configFiles (given : CommandLine.Given) : List Path :=
  let path := given.config.getD Settings.defaultFile
  [path, path ++ ".toml", path ++ ".json"]

def logFiles (settings : LoggingSettings) (stamp : Stamp) : List Path :=
  match settings.path with
  | none => []
  | some directory =>
    let config := LoggerConfig.standard CommandLine.programName
    [directory, Path.join directory (Logger.fileName config stamp)]

/-- The files that a command may look at once the settings are known. -/
def fetchFor (invocation : CommandLine.Invocation) (settings : Settings) (stamp : Stamp)
    (tree : Tree) : IO Tree := do
  let tree ← fetchAll tree (logFiles settings.logging stamp)
  match invocation.command with
  | .lookup => fetchAll tree invocation.given.database.toList
  | .scan => do
    let scan := CommandLine.applyScan invocation.given settings.scan
    let output := CommandLine.applyOutput invocation.given settings.output
    let tree ← fetchAll tree [scan.sdkPath, output.outputDir]
    if tree.isDirectory scan.sdkPath then fetchAll tree (← inputLines (← IO.getStdin))
    else return tree
  | .classes => return tree

def pathOf (tree : Tree) (place : Place) : Path :=
  let names := place.reverse
  if tree.workingDirectory.isPrefixOf names then
    join ['/'] (names.drop tree.workingDirectory.length)
  else '/' :: join ['/'] names

def store (before after : Tree) : IO Unit := do
  for (place, node) in after.nodes.reverse do
    if before.node? place ≠ some node then
      let path := String.ofList (pathOf after place)
      match node with
      | .file bytes => IO.FS.writeBinFile path ⟨bytes.toArray⟩
      | .directory => IO.FS.createDirAll path
      | .link _ => pure ()

end GuidAtlas.Main

open GuidAtlas in
def main (arguments : List String) : IO UInt32 := do
  let arguments := arguments.map String.toList
  let env ← Main.environment
  let stamp ← Main.now
  let tree ← match CommandLine.read arguments with
    | .error _ => pure Storage.Tree.empty
    | .ok invocation => do
      let tree ← Main.fetchAll .empty (Main.configFiles invocation.given)
      match Settings.load tree invocation.given.config env with
      | .error _ => pure tree
      | .ok settings => Main.fetchFor invocation settings stamp tree
  let outcome := CommandLine.run arguments env stamp tree
  Main.store tree outcome.tree
  IO.print (String.ofList outcome.stdout)
  IO.eprint (String.ofList outcome.stderr)
  return outcome.exit.toUInt32
