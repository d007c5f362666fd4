/-
ImportCensus/Path/Bytes.lean

Paths as the system keeps them.

To the system a path is a sequence of bytes, which need not be the bytes of a text.  Only slashes and dots
have a meaning in it, and each of them is a byte that belongs to nothing else.  So such a path is taken apart
like one with a character for each byte, whatever the bytes are.

Where a path is shown, the replacement character stands for what is no text in it.
-/
import ImportCensus.Path
import ImportCensus.Text.Utf8

namespace ImportCensus

open Text

/-- A path as the system keeps it. -/
structure RawPath where
  bytes : Bytes
  deriving DecidableEq, Repr

namespace RawPath

/-- The bytes of a path that is a text. -/
def ofPath (p : Path) : RawPath :=
  ⟨encode p.text.toList⟩

/-- The character with the number of a byte. -/
def charOf (b : UInt8) : Char :=
  Char.ofNat b.toNat

/-- The byte with the number of a character. -/
def byteOf (c : Char) : UInt8 :=
  UInt8.ofNat c.toNat

/-- The path with a character for each byte. -/
def spelled (p : RawPath) : Path :=
  ⟨String.ofList (p.bytes.map charOf)⟩

/-- The bytes of a path that has a character for each of them. -/
def ofSpelled (p : Path) : RawPath :=
  ⟨p.text.toList.map byteOf⟩

/-- The last component, if it is a name. -/
def fileName? (p : RawPath) : Option Bytes :=
  p.spelled.fileName?.map fun name => name.toList.map byteOf

/-- What is left of the path behind the components of `base`, if its components start with them. -/
def relativeTo? (p base : RawPath) : Option RawPath :=
  (p.spelled.relativeTo? base.spelled).map ofSpelled

/-- The path as it is shown by itself. -/
def display (p : RawPath) : String :=
  String.ofList (decodeLossy p.bytes)

/-- The path as it is shown from a directory: what is below the directory is shown as it is seen from
there. -/
def displayFrom (root : Option RawPath) (p : RawPath) : String :=
  ((root.bind p.relativeTo?).getD p).display

end RawPath

end ImportCensus
