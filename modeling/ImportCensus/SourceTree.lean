/-
ImportCensus/SourceTree.lean

The hierarchy of directories and source files that a scan has visited.
-/
import ImportCensus.Path

namespace ImportCensus

/-- A directory with what is in it, or a source file. -/
inductive SourceTree where
  | directory (name : String) (path : Path) (children : List SourceTree)
  | file (name : String) (path : Path)
  deriving Repr

namespace SourceTree

/-- The name of the topmost entry. -/
def name : SourceTree → String
  | directory name .. | file name _ => name

/-- The path of the topmost entry. -/
def path : SourceTree → Path
  | directory _ path _ | file _ path => path

/-- Is the topmost entry a directory? -/
def isDirectory : SourceTree → Bool
  | directory .. => true
  | file .. => false

/-- What is directly in the topmost entry. -/
def children : SourceTree → List SourceTree
  | directory _ _ children => children
  | file .. => []

mutual

/-- The number of files in a tree. -/
def fileCount : SourceTree → Nat
  | directory _ _ children => fileCounts children
  | file .. => 1

/-- The number of files in several trees. -/
def fileCounts : List SourceTree → Nat
  | [] => 0
  | t :: ts => fileCount t + fileCounts ts

end

mutual

/-- All entries of a tree with their depth, a directory before what is in it. -/
def entriesFrom (depth : Nat) : SourceTree → List (Nat × SourceTree)
  | directory name path children =>
    (depth, directory name path children) :: entriesOfAll (depth + 1) children
  | file name path => [(depth, file name path)]

/-- All entries of several trees. -/
def entriesOfAll (depth : Nat) : List SourceTree → List (Nat × SourceTree)
  | [] => []
  | t :: ts => entriesFrom depth t ++ entriesOfAll depth ts

end

/-- All entries of a tree, a directory before what is in it. -/
def entries (t : SourceTree) : List SourceTree :=
  (entriesFrom 0 t).map (·.2)

end SourceTree

end ImportCensus
