/-
ImportCensus/SourceFile.lean

Which files and directories a survey looks at, by their names.

A source file is one whose name ends in one of four suffixes, upper and lower case told apart; a file
whose whole name is a suffix counts, and a name that is no text does not.  A directory is left out if its
name starts with a dot or if it is the directory of installed packages.
-/
import ImportCensus.Path.Bytes

namespace ImportCensus

open Text

/-- The suffixes of source files. -/
def sourceSuffixes : List String :=
  [".js", ".jsx", ".ts", ".tsx"]

/-- Is this the name of a source file? -/
def isSourceName (name : String) : Bool :=
  sourceSuffixes.any fun suffix => suffix.toList.isSuffixOf name.toList

/-- Are these the bytes of the name of a source file? -/
def isSourceBytes (name : Bytes) : Bool :=
  (decode? name).any fun s => isSourceName (String.ofList s)

/-- Does a path end in the name of a source file? -/
def RawPath.isSource (p : RawPath) : Bool :=
  p.fileName?.any isSourceBytes

/-- Does a path that is a text end in the name of a source file? -/
def isSourcePath (p : Path) : Bool :=
  (RawPath.ofPath p).isSource

/-- Is a directory of this name left out? -/
def isExcludedDirectory (name : String) : Bool :=
  name.toList.head? == some '.' || name == "node_modules"

end ImportCensus
