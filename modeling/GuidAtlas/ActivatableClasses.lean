import GuidAtlas.Directory
import GuidAtlas.Fault
import GuidAtlas.Text.Blank
import GuidAtlas.Text.Case

/-!
Runtime classes grouped by the library that activates them. Paths of libraries are compared without
regard to case and shown as they were first written.
-/

namespace GuidAtlas

open Text

structure ClassGroup where
  path : Text
  classes : List Text

structure ActivatableClasses where
  libraries : Directory ClassGroup
  size : Nat

namespace ActivatableClasses

def empty : ActivatableClasses := ⟨.empty, 0⟩

/-- Halves the places from `base` on, `size` of them, until one is left: the last one with a name
that does not come after `name`, or the first of all. -/
def narrow (names : List Text) (name : Text) (base size : Nat) : Nat :=
  if size ≤ 1 then base
  else
    let half := size / 2
    let comesAfter := names[base + half]?.any (name < ·)
    narrow names name (if comesAfter then base else base + half) (size - half)
termination_by size

/-- Where a name is among ascending names, or where it belongs. -/
inductive Place where
  | known (index : Nat)
  | free (index : Nat)
  deriving DecidableEq, Repr

def search (names : List Text) (name : Text) : Place :=
  let index := narrow names name 0 names.length
  match names[index]? with
  | none => .free 0
  | some other =>
    if other = name then .known index else .free (if other < name then index + 1 else index)

def libraryKey (library : Text) : Text := lower (trim library)

/-- Records that a library activates a class. A pair that is known changes nothing. -/
def add (classes : ActivatableClasses) (library name : Text) : ActivatableClasses :=
  let key := libraryKey library
  let group := (classes.libraries.get? key).getD ⟨trim library, []⟩
  match search group.classes name with
  | .known _ => { classes with libraries := classes.libraries.insert key group }
  | .free index =>
    ⟨classes.libraries.insert key { group with classes := group.classes.insertIdx index name },
      classes.size + 1⟩

def ofPairs (pairs : List (Text × Text)) : ActivatableClasses :=
  pairs.foldl (fun classes (library, name) => classes.add library name) empty

def groups (classes : ActivatableClasses) : List ClassGroup := classes.libraries.entries.map (·.2)

def isEmpty (classes : ActivatableClasses) : Bool := classes.size = 0

def libraryCount (classes : ActivatableClasses) : Nat := classes.libraries.size

end ActivatableClasses

end GuidAtlas
