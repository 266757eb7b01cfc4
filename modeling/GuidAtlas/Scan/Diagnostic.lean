import GuidAtlas.Catalog
import GuidAtlas.Header.Declaration

/-!
Problems in headers. None of them stops a scan.
-/

namespace GuidAtlas

open Text

inductive Problem where
  /-- A GUID in no known form. -/
  | unread
  /-- A declaration that the catalog refused. -/
  | rejected (rejection : Rejection)
  deriving DecidableEq, Repr

structure Diagnostic where
  file : Text
  line : Nat
  problem : Problem
  deriving DecidableEq, Repr

def Problem.message : Problem → Text
  | .unread => "Syntax error"
  | .rejected rejection => rejection.message

def Diagnostic.message (diagnostic : Diagnostic) : Text :=
  diagnostic.problem.message ++ " in line " ++ decimal diagnostic.line ++ " in " ++ diagnostic.file

def Header.Contents.diagnostics (contents : Header.Contents) (file : Text) : List Diagnostic :=
  contents.unread.map fun line => ⟨file, line, .unread⟩

end GuidAtlas
