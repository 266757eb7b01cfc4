import GuidAtlas.Settings.Basic

/-!
The command line: general options, a command and the options and words of the command. Arguments are
read from left to right, and the first one that cannot be understood ends the reading.
-/

namespace GuidAtlas.CommandLine

open Text Storage

/-- What the arguments of one command say. -/
structure Given where
  config : Option Path := none
  verbose : Bool := false
  database : Option Path := none
  sdk : Option Path := none
  build : Option Nat := none
  onlyWinrt : Bool := false
  out : Option Path := none
  formats : List ExportFormat := []
  words : List Text := []

/-- Why the reading of arguments ends without a command to run. -/
inductive Stop where
  | usage
  | help
  | version
  deriving DecidableEq, Repr

inductive Effect where
  | flag (set : Given → Option Given)
  | value (set : Given → Text → Option Given)
  | stop (stop : Stop)

structure Switch where
  short : Option Char := none
  long : Text
  effect : Effect

namespace Switch

def flagOnce (short : Option Char) (long : Text) (get : Given → Bool) (put : Given → Given) :
    Switch :=
  ⟨short, long, .flag fun given => if get given then none else some (put given)⟩

def valueOnce {α : Type} (short : Option Char) (long : Text) (parse : Text → Option α)
    (get : Given → Option α) (put : Given → α → Given) : Switch :=
  ⟨short, long, .value fun given t =>
    if (get given).isSome then none else (parse t).map (put given)⟩

def path? (t : Text) : Option Path := if t.isEmpty then none else some t

def build? (t : Text) : Option Nat := (signedNumber? 10 t).filter (· < 0x100000000)

def formats? (t : Text) : Option (List ExportFormat) := (splitAt ',' t).mapM ExportFormat.parse?

def config : Switch :=
  valueOnce (some 'c') "config" path? Given.config fun given x => { given with config := some x }

def verbose : Switch :=
  flagOnce (some 'v') "verbose" Given.verbose fun given => { given with verbose := true }

def help : Switch := ⟨some 'h', "help", .stop .help⟩

def version : Switch := ⟨some 'V', "version", .stop .version⟩

def database : Switch :=
  valueOnce none "ini" path? Given.database fun given x => { given with database := some x }

def sdk : Switch := valueOnce none "sdk" path? Given.sdk fun given x => { given with sdk := some x }

def build : Switch :=
  valueOnce none "build" build? Given.build fun given x => { given with build := some x }

def onlyWinrt : Switch :=
  flagOnce none "winrt-only" Given.onlyWinrt fun given => { given with onlyWinrt := true }

def out : Switch :=
  valueOnce (some 'o') "out" path? Given.out fun given x => { given with out := some x }

/-- Formats of several occurrences add up. -/
def format : Switch :=
  ⟨some 'f', "format", .value fun given t =>
    (formats? t).map fun formats => { given with formats := given.formats ++ formats }⟩

def general : List Switch := [config, verbose, help]

end Switch

inductive CommandName where
  | lookup
  | scan
  | classes
  deriving DecidableEq, Repr

namespace CommandName

def all : List CommandName := [lookup, scan, classes]

def name : CommandName → Text
  | lookup => "lookup"
  | scan => "scan"
  | classes => "classes"

def ofName? (t : Text) : Option CommandName := all.find? (·.name = t)

def switches : CommandName → List Switch
  | lookup => [Switch.database]
  | scan => [Switch.sdk, Switch.build, Switch.onlyWinrt, Switch.out, Switch.format]
  | classes => [Switch.build, Switch.out, Switch.format]

def wordLimit : CommandName → Nat
  | lookup => 1
  | _ => 0

end CommandName

abbrev Reading := Except Stop

def orUsage {α : Type} : Option α → Reading α
  | some a => .ok a
  | none => .error .usage

/-- An argument that starts like a switch is no value of the option before it. -/
def looksLikeSwitch : Text → Bool
  | '-' :: _ :: _ => true
  | _ => false

/-- A cluster of short switches. An option takes the rest of the cluster for its value; at the end
of the cluster it is given back to take the next argument. -/
def readCluster (switches : List Switch) (given : Given) :
    Text → Reading (Given × Option (Given → Text → Option Given))
  | [] => .ok (given, none)
  | c :: rest =>
    match (switches.find? (·.short = some c)).map Switch.effect with
    | none => .error .usage
    | some (.stop stop) => .error stop
    | some (.flag set) => do readCluster switches (← orUsage (set given)) rest
    | some (.value set) =>
      match rest with
      | [] => .ok (given, some set)
      | '=' :: value => do return (← orUsage (set given value), none)
      | value => do return (← orUsage (set given value), none)

/-- A long switch without its two dashes, perhaps with a value behind a sign of equality. -/
def readLong (switches : List Switch) (given : Given) (t : Text) :
    Reading (Given × Option (Given → Text → Option Given)) :=
  let (long, value?) := match cut? "=" t with
    | some (long, value) => (long, some value)
    | none => (t, none)
  match (switches.find? (·.long = long)).map Switch.effect, value? with
  | some (.stop stop), none => .error stop
  | some (.flag set), none => do return (← orUsage (set given), none)
  | some (.value set), some value => do return (← orUsage (set given value), none)
  | some (.value set), none => .ok (given, some set)
  | _, _ => .error .usage

def addWord (limit : Nat) (given : Given) (word : Text) : Reading Given :=
  if given.words.length < limit then .ok { given with words := given.words ++ [word] }
  else .error .usage

/-- Reads arguments up to the first one in `stops`, which is given back with those behind it. -/
def readArguments (switches : List Switch) (limit : Nat) (stops : List Text) (given : Given) :
    List Text → Reading (Given × Option (Text × List Text))
  | [] => .ok (given, none)
  | argument :: rest =>
    if stops.elem argument then .ok (given, some (argument, rest))
    else if argument = "--".toList then do return (← rest.foldlM (addWord limit) given, none)
    else
      let switch? := match argument with
        | '-' :: '-' :: t => some (readLong switches given t)
        | '-' :: c :: t => some (readCluster switches given (c :: t))
        | _ => none
      match switch? with
      | none => do readArguments switches limit stops (← addWord limit given argument) rest
      | some (.error stop) => .error stop
      | some (.ok (given, none)) => readArguments switches limit stops given rest
      | some (.ok (given, some set)) =>
        match rest with
        | [] => .error .usage
        | value :: rest =>
          if looksLikeSwitch value then .error .usage
          else do readArguments switches limit stops (← orUsage (set given value)) rest

/-- A command with what is given for it, the general options of both places included. -/
structure Invocation where
  command : CommandName
  given : Given

def helpWord : Text := "help"

def readHelp : List Text → Reading Invocation
  | [] => .error .help
  | [t] => if t = helpWord || (CommandName.ofName? t).isSome then .error .help else .error .usage
  | _ => .error .usage

/-- General options of the command come before those in front of it. -/
def withGeneral (front given : Given) : Given :=
  { given with
    config := given.config <|> front.config
    verbose := given.verbose || front.verbose }

def read (arguments : List Text) : Reading Invocation := do
  let commands := helpWord :: CommandName.all.map CommandName.name
  let (front, found) ←
    readArguments (Switch.version :: Switch.general) 0 commands {} arguments
  let (name, rest) ← orUsage found
  match CommandName.ofName? name with
  | none => readHelp rest
  | some command =>
    let (given, _) ←
      readArguments (command.switches ++ Switch.general) command.wordLimit [] {} rest
    if given.words.length < command.wordLimit then .error .usage
    else return ⟨command, withGeneral front given⟩

end GuidAtlas.CommandLine
