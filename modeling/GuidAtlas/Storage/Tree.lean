import GuidAtlas.Directory
import GuidAtlas.Storage.Path

/-!
Files, directories and symbolic links, seen from a working directory.
-/

namespace GuidAtlas.Storage

open Text

inductive StorageError where
  | notFound
  | alreadyExists
  | notDirectory
  | isDirectory
  | tooManyLinks
  | nulInName
  deriving DecidableEq, Repr

def StorageError.message : StorageError → Text
  | .notFound => "No such file or directory (os error 2)"
  | .alreadyExists => "File exists (os error 17)"
  | .notDirectory => "Not a directory (os error 20)"
  | .isDirectory => "Is a directory (os error 21)"
  | .tooManyLinks => "Too many levels of symbolic links (os error 40)"
  | .nulInName => "file name contained an unexpected NUL byte"

inductive Node where
  | file (bytes : List UInt8)
  | directory
  | link (target : Path)
  deriving DecidableEq

/-- The names that lead from a place up to the root. -/
abbrev Place := List Text

structure Tree where
  nodes : List (Place × Node)
  workingDirectory : Place

/-- Where a walk along the steps of a path ends. -/
inductive Arrival where
  | reached (place : Place)
  /-- Only the last step leads nowhere. -/
  | missing (directory : Place) (name : Text)
  /-- The walk has to go on at the target of a link. -/
  | redirected (directory : Place) (target : Path) (rest : List Text)
  | blocked (error : StorageError)

namespace Tree

def empty : Tree := ⟨[(["work"], .directory)], ["work"]⟩

def node? (tree : Tree) (place : Place) : Option Node :=
  if place.isEmpty then some .directory else tree.nodes.lookup place

def put (tree : Tree) (place : Place) (node : Node) : Tree :=
  { tree with nodes := (place, node) :: tree.nodes.filter (·.1 ≠ place) }

/-- Walks along steps up to the first link that has to be followed. -/
def walk (tree : Tree) (followLast : Bool) (place : Place) : List Text → Arrival
  | [] => .reached place
  | step :: rest =>
    if tree.node? place ≠ some .directory then .blocked .notDirectory
    else if step = ['.'] then walk tree followLast place rest
    else if step = ['.', '.'] then walk tree followLast place.tail rest
    else match tree.node? (step :: place) with
      | none => if rest.isEmpty then .missing place step else .blocked .notFound
      | some (.link target) =>
        if rest.isEmpty && !followLast then .reached (step :: place)
        else .redirected place target rest
      | some _ => walk tree followLast (step :: place) rest

def start (path : Path) (directory : Place) : Place :=
  if path.isAbsolute then [] else directory

def resolveFrom (tree : Tree) (followLast : Bool) :
    (links : Nat) → (place : Place) → List Text → Arrival
  | 0, _, _ => .blocked .tooManyLinks
  | links + 1, place, steps =>
    match walk tree followLast place steps with
    | .redirected directory target rest =>
      resolveFrom tree followLast links (start target directory) (target.steps ++ rest)
    | arrival => arrival

def linkLimit : Nat := 41

def resolve (tree : Tree) (followLast : Bool) (path : Path) : Arrival :=
  if path.isEmpty then .blocked .notFound
  else if path.elem '\x00' then .blocked .nulInName
  else resolveFrom tree followLast linkLimit (start path tree.workingDirectory) path.steps

def find (tree : Tree) (path : Path) : Except StorageError (Place × Node) :=
  match tree.resolve true path with
  | .reached place =>
    match tree.node? place with
    | some node => .ok (place, node)
    | none => .error .notFound
  | .blocked error => .error error
  | _ => .error .notFound

def isDirectory (tree : Tree) (path : Path) : Bool :=
  match tree.find path with
  | .ok (_, .directory) => true
  | _ => false

def isFile (tree : Tree) (path : Path) : Bool :=
  match tree.find path with
  | .ok (_, .file _) => true
  | _ => false

def read (tree : Tree) (path : Path) : Except StorageError (List UInt8) :=
  match tree.find path with
  | .ok (_, .file bytes) => .ok bytes
  | .ok _ => .error .isDirectory
  | .error error => .error error

def members (tree : Tree) (place : Place) : List (Text × Node) :=
  (tree.nodes.foldl (fun (found : Directory Node) (inner, node) =>
    match inner with
    | name :: outer => if outer = place then found.insert name node else found
    | [] => found) .empty).entries

/-- The members of a directory, none if there is no directory at the path. -/
def list (tree : Tree) (path : Path) : List (Text × Node) :=
  match tree.find path with
  | .ok (place, .directory) => tree.members place
  | _ => []

def write (tree : Tree) (path : Path) (bytes : List UInt8) : Except StorageError Tree :=
  match tree.resolve true path with
  | .reached place =>
    if tree.node? place = some .directory then .error .isDirectory
    else .ok (tree.put place (.file bytes))
  | .missing directory name => .ok (tree.put (name :: directory) (.file bytes))
  | .redirected _ _ _ => .error .notFound
  | .blocked error => .error error

/-- Makes a directory, or a link, where nothing is yet. -/
def make (tree : Tree) (path : Path) (node : Node) : Except StorageError Tree :=
  let bare := trimEndOf (· = '/') path
  match tree.resolve false (if bare.isEmpty then path else bare) with
  | .reached _ => .error .alreadyExists
  | .missing directory name => .ok (tree.put (name :: directory) node)
  | .redirected _ _ _ => .error .notFound
  | .blocked error => .error error

def makeDirectoriesFrom (tree : Tree) : (depth : Nat) → Path → Except StorageError Tree
  | 0, _ => .ok tree
  | depth + 1, path =>
    if path.isEmpty then .ok tree
    else match tree.make path .directory with
      | .ok tree => .ok tree
      | .error .notFound => do
        let tree ← makeDirectoriesFrom tree depth (path.parent?.getD [])
        match tree.make path .directory with
        | .ok tree => .ok tree
        | .error error => if tree.isDirectory path then .ok tree else .error error
      | .error error => if tree.isDirectory path then .ok tree else .error error

/-- Makes a directory and those above it, as far as they are missing. -/
def makeDirectories (tree : Tree) (path : Path) : Except StorageError Tree :=
  makeDirectoriesFrom tree (path.plainParts.length + 1) path

/-- The tree with a node at a path and directories above it; unchanged if that cannot be. -/
def withNode (tree : Tree) (path : Path) (node : Node) : Tree :=
  match tree.makeDirectories (path.parent?.getD []) with
  | .error _ => tree
  | .ok tree =>
    let next := match node with
      | .file bytes => tree.write path bytes
      | .directory => tree.makeDirectories path
      | .link _ => tree.make path node
    match next with
    | .ok tree => tree
    | .error _ => tree

end Tree

end GuidAtlas.Storage
