/-
ImportCensus/Package/Name.lean

Names of packages, and the name that a module specifier asks for.

A name is one segment that starts with neither a dot nor an at sign, or a scope and a segment,
`@scope/segment`.  A specifier asks for a package by its name, which any further segments may follow; a
specifier that starts with a dot or a slash asks for a file instead and names no package.

Main statements: a specifier's package is spelled as the beginning of the specifier
(`text_ofSpecifier?`), and a name that is read back is the name itself (`ofText?_text`).
-/
import ImportCensus.Text.Split

namespace ImportCensus

open Text

/-- Is a text the name of a package? -/
def isPackageName (s : List Char) : Bool :=
  match s with
  | [] => false
  | '@' :: r =>
    match split '/' r with
    | [scope, segment] => !scope.isEmpty && !segment.isEmpty
    | _ => false
  | c :: r => c != '.' && !(c :: r).contains '/'

/-- The name of a package. -/
structure PackageName where
  text : String
  isName : isPackageName text.toList = true
  deriving DecidableEq, Repr

namespace PackageName

/-- Names are ordered by their characters. -/
instance : Ord PackageName :=
  ⟨compareOn text⟩

instance : Std.TransOrd PackageName :=
  inferInstanceAs (Std.TransCmp (compareOn text))

instance : Std.LawfulEqOrd PackageName where
  eq_of_compare {a b} h := by
    have h' : compare a.text b.text = .eq := h
    cases a
    cases b
    simp_all

/-! ### Reading -/

/-- The name that is spelled by a text, if the text is a name. -/
def ofText? (s : String) : Option PackageName :=
  if h : isPackageName s.toList = true then some ⟨s, h⟩ else none

/-- The part of a specifier that would be a name: its first segment, or its first two segments behind
an at sign. -/
def leadingSegments (s : List Char) : List Char :=
  match split '/' s with
  | first :: second :: _ => if first.head? = some '@' then first ++ '/' :: second else first
  | pieces => pieces.flatten

/-- The package that a specifier asks for. -/
def ofSpecifier? (s : String) : Option PackageName :=
  ofText? (String.ofList (leadingSegments s.toList))

theorem ofText?_text (n : PackageName) : ofText? n.text = some n := by
  simp [ofText?, n.isName]

theorem text_of_ofText? {s : String} {n : PackageName} (h : ofText? s = some n) : n.text = s := by
  simp only [ofText?] at h
  split at h
  · simp only [Option.some.injEq] at h
    rw [← h]
  · simp at h

theorem text_ofSpecifier? {s : String} {n : PackageName} (h : ofSpecifier? s = some n) :
    n.text.toList = leadingSegments s.toList := by
  rw [text_of_ofText? h, String.toList_ofList]

/-! ### Spelling in a registry -/

/-- Does the name have a scope? -/
def isScoped (n : PackageName) : Bool :=
  n.text.toList.head? == some '@'

/-- One character of a scoped name in the path of a request. -/
def encodeChar (c : Char) : List Char :=
  if c = '/' then ['%', '2', 'F'] else [c]

/-- The name as one segment of the path of a request: the slash behind a scope is escaped. -/
def encoded (n : PackageName) : String :=
  if n.isScoped then String.ofList (n.text.toList.flatMap encodeChar) else n.text

end PackageName

end ImportCensus
