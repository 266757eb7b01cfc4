import GuidAtlas.Data.JsonText
import GuidAtlas.Logging.Filter
import GuidAtlas.Storage.Tree
import GuidAtlas.Text.Utf8

/-!
Loggers write the events that their filter lets through into a file that is named for the time it
was opened at.
-/

namespace GuidAtlas.Logging

open Text Storage

inductive Rotation where
  | daily
  | hourly
  | never
  deriving DecidableEq, Repr

/-- A date and an hour of it, as file names show them. -/
structure Stamp where
  date : Text
  hour : Text

structure LoggerConfig where
  name : Text
  console : Bool
  path : Option Path
  level : Verbosity
  rotation : Rotation
  maxFiles : Nat
  json : Bool
  /-- Directives that replace those of the environment. -/
  directives : Option Text

def LoggerConfig.standard (name : Text) : LoggerConfig :=
  ⟨name, true, none, some .info, .daily, 5, false, none⟩

structure Logger where
  filter : Filter
  file : Option Path
  json : Bool

structure Record where
  target : Text
  level : Level
  message : Text

namespace Logger

def fileName (config : LoggerConfig) (stamp : Stamp) : Text :=
  match config.rotation with
  | .never => config.name ++ ".log"
  | .daily => config.name ++ "." ++ stamp.date ++ ".log"
  | .hourly => config.name ++ "." ++ stamp.date ++ "-" ++ stamp.hour ++ ".log"

def filterOf (config : LoggerConfig) (environment : Option Text) :
    Except (Fault LoggerFault) Filter :=
  match config.directives with
  | none => .ok (Filter.parseLossy config.level (environment.getD []))
  | some t =>
    match Filter.parse config.level t with
    | .ok filter => .ok filter
    | .error fault => .error (invalid ("Invalid env filter '" ++ t ++ "': " ++ fault.message))

/-- Removes the oldest log files of a name, so that one more makes as many as are kept. -/
def prune (tree : Tree) (directory : Path) (config : LoggerConfig) : Tree :=
  match tree.find directory with
  | .ok (place, .directory) =>
    let old := tree.nodes.filterMap fun (inner, node) =>
      match inner, node with
      | name :: outer, .file _ =>
        if outer = place ∧ startsWith name config.name ∧ endsWith name "log" then some inner
        else none
      | _, _ => none
    let gone := old.drop (config.maxFiles - 1)
    if old.length < config.maxFiles then tree
    else { tree with nodes := tree.nodes.filter fun (place, _) => !gone.elem place }
  | _ => tree

def append (tree : Tree) (path : Path) (t : Text) : Except StorageError Tree :=
  let old := match tree.read path with
    | .ok bytes => bytes
    | .error _ => []
  tree.write path (old ++ encode t)

/-- Opens the log file in a directory, which is made if it is missing. -/
def openFile (tree : Tree) (directory : Path) (config : LoggerConfig) (stamp : Stamp) :
    Except (Fault LoggerFault) (Path × Tree) := do
  let tree ← match tree.makeDirectories directory with
    | .ok tree => pure tree
    | .error error =>
      .error ⟨.internal, error.message, some ("Failed to create path: " ++ directory)⟩
  let path := directory.join (fileName config stamp)
  match append (prune tree directory config) path [] with
  | .ok tree => return (path, tree)
  | .error error =>
    .error { kind := .appender, detail := "failed to create initial log file: " ++ error.message }

/-- Starts a logger, of which a process can have one. The files may change even if that fails. -/
def start (config : LoggerConfig) (environment : Option Text) (stamp : Stamp) (started : Bool)
    (tree : Tree) : Except (Fault LoggerFault) Logger × Tree :=
  let checked : Except (Fault LoggerFault) Filter := do
    if (trim config.name).isEmpty then .error (invalid "log file name is empty")
    if config.maxFiles = 0 then .error (invalid "at least one log file must be kept")
    filterOf config environment
  match checked with
  | .error fault => (.error fault, tree)
  | .ok filter =>
    let opened : Except (Fault LoggerFault) (Option Path × Tree) := match config.path with
      | none => .ok (none, tree)
      | some path =>
        (openFile tree path config stamp).map fun (path, tree) => (some path, tree)
    match opened with
    | .error fault => (.error fault, tree)
    | .ok (file, tree) =>
      if !config.console && file.isNone then
        (.error (invalid "console and file output are both disabled"), tree)
      else if started then
        (.error
          { kind := .subscriber,
            detail := "a global default trace dispatcher has already been set" }, tree)
      else (.ok ⟨filter, file, config.json⟩, tree)

def line (json : Bool) (record : Record) : Text :=
  if json then
    "\x7b\"level\":" ++ Json.written record.level.name ++ ",\"fields\":\x7b\"message\":" ++
      Json.written record.message ++ "\x7d,\"target\":" ++ Json.written record.target ++ "\x7d\n"
  else record.level.name ++ " " ++ record.target ++ ": " ++ record.message ++ "\n"

def log (logger : Logger) (tree : Tree) (record : Record) : Tree :=
  match logger.file with
  | none => tree
  | some path =>
    if logger.filter.allows record.target record.level then
      match append tree path (line logger.json record) with
      | .ok tree => tree
      | .error _ => tree
    else tree

def ownTarget : Text := "guidex_logger"

def flush (logger : Logger) (tree : Tree) : Tree :=
  logger.log tree ⟨ownTarget, .debug, "Logger flushed"⟩

/-- The last record of a logger with a file. -/
def close (logger : Logger) (tree : Tree) : Tree :=
  logger.log tree ⟨ownTarget, .debug, "Flushing log files"⟩

end Logger

end GuidAtlas.Logging
