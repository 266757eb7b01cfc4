import GuidAtlas.Text.Basic

/-!
Events that the parts of the program report while they work.
-/

namespace GuidAtlas.Logging

inductive Level where
  | error
  | warn
  | info
  | debug
  | trace
  deriving DecidableEq, Repr

def Level.name : Level → Text
  | .error => "ERROR"
  | .warn => "WARN"
  | .info => "INFO"
  | .debug => "DEBUG"
  | .trace => "TRACE"

structure Event where
  level : Level
  message : Text
  fields : List (Text × Text) := []
  deriving DecidableEq, Repr

def Event.line (event : Event) : Text :=
  event.level.name ++ ' ' :: event.message ++
    event.fields.flatMap fun (key, value) => ' ' :: key ++ '=' :: value

end GuidAtlas.Logging
