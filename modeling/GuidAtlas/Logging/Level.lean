import GuidAtlas.Fault
import GuidAtlas.Logging.Event
import GuidAtlas.Text.Blank
import GuidAtlas.Text.Case

/-!
How verbose a log is: events up to a level, or none at all.
-/

namespace GuidAtlas.Logging

open Text

/-- Errors weigh least, traces most. -/
def Level.weight : Level → Nat
  | .error => 1
  | .warn => 2
  | .info => 3
  | .debug => 4
  | .trace => 5

/-- The greatest level that is let through; `none` lets nothing through. -/
abbrev Verbosity := Option Level

namespace Verbosity

def weight : Verbosity → Nat
  | none => 0
  | some level => level.weight

def allows (verbosity : Verbosity) (level : Level) : Bool := level.weight ≤ verbosity.weight

def name : Verbosity → Text
  | none => "off"
  | some level => lowerAscii level.name

def all : List Verbosity :=
  [none, some .error, some .warn, some .info, some .debug, some .trace]

/-- A verbosity by its weight or its name in any case; the empty text means errors. -/
def ofText? (t : Text) : Option Verbosity :=
  if t.isEmpty then some (some .error)
  else match signedNumber? 10 t with
    | some n => all[n]?
    | none => all.find? fun verbosity => verbosity.name = lowerAscii t

def expectedText : Text :=
  "error parsing level filter: expected one of \"off\", \"error\", \"warn\", \"info\", " ++
    "\"debug\", \"trace\", or a number 0-5"

end Verbosity

inductive LoggerFault where
  | appender
  | subscriber
  | invalidConfiguration
  | internal
  deriving DecidableEq, Repr

instance : FaultKind LoggerFault where
  title
    | .appender => "Rolling file appender error"
    | .subscriber => "Tracing subscriber error"
    | .invalidConfiguration => "Invalid logger configuration"
    | .internal => "Internal logger error"

def invalid (detail : Text) : Fault LoggerFault :=
  { kind := .invalidConfiguration, detail := detail }

def parseLevel (t : Text) : Except (Fault LoggerFault) Verbosity :=
  match Verbosity.ofText? (trim t) with
  | some verbosity => .ok verbosity
  | none => .error (invalid ("Unknown log level '" ++ t ++ "': " ++ Verbosity.expectedText))

end GuidAtlas.Logging
