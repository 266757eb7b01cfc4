import GuidAtlas.Text.Basic

/-!
Faults: a kind of failure, its details and the activity it happened in.
-/

namespace GuidAtlas

class FaultKind (κ : Type) where
  title : κ → Text

structure Fault (κ : Type) where
  kind : κ
  detail : Text
  context : Option Text := none
  deriving DecidableEq, Repr

namespace Fault

def within {κ : Type} (fault : Fault κ) (context : Text) : Fault κ :=
  { fault with context := some context }

def contextText : Option Text → Text
  | none => []
  | some context => " (" ++ context ++ ")"

def message {κ : Type} [FaultKind κ] (fault : Fault κ) : Text :=
  FaultKind.title fault.kind ++ contextText fault.context ++ ": " ++ fault.detail

end Fault

end GuidAtlas
