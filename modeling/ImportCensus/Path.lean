/-
ImportCensus/Path.lean

Paths.  A path is kept as it was spelled, and it is compared, looked up and taken apart by its
components: repeated slashes, `.` components other than a leading one, and trailing slashes do not
count, while `..` is a component like any other.

Two paths with the same components are one key of a map, and paths are ordered component by
component, so that the contents of a directory stand before a sibling whose name merely goes on.

A path here is a text in UTF-8.  The system also has paths whose bytes are no text; where that matters, a path
is taken as its bytes (`RawPath`).

Main statements: the comparison is a transitive order (`instTransOrdPath`), and two paths compare as
equal exactly if their components are equal (`compare_eq_iff_components`).
-/
import ImportCensus.Text.Split

namespace ImportCensus

open Text

/-- One component of a path. -/
inductive Component where
  | root
  | current
  | parent
  | name (text : String)
  deriving DecidableEq, Repr

namespace Component

/-- The kinds of component in ascending order. -/
def rank : Component → Nat
  | root => 0
  | current => 1
  | parent => 2
  | name _ => 3

/-- The name of a named component. -/
def label : Component → String
  | name s => s
  | _ => ""

/-- Components are ordered by kind, names among each other by their characters. -/
instance : Ord Component :=
  ⟨compareLex (compareOn rank) (compareOn label)⟩

instance : Std.TransOrd Component :=
  inferInstanceAs (Std.TransCmp (compareLex (compareOn rank) (compareOn label)))

instance : Std.LawfulEqOrd Component where
  eq_of_compare {a b} h := by
    have h' : compareLex (compareOn rank) (compareOn label) a b = .eq := h
    rw [compareLex_eq_eq] at h'
    have h₁ : a.rank = b.rank := Std.LawfulEqOrd.eq_of_compare h'.1
    have h₂ : a.label = b.label := Std.LawfulEqOrd.eq_of_compare h'.2
    cases a <;> cases b <;> simp_all [rank, label]

/-- How a component is written between slashes. -/
def toText : Component → List Char
  | root => []
  | current => ['.']
  | parent => ['.', '.']
  | name s => s.toList

end Component

/-- A path as it was spelled. -/
structure Path where
  text : String
  deriving DecidableEq, Repr

namespace Path

/-! ### Components -/

/-- The component that a piece between slashes stands for, behind the first piece. -/
def componentOf? (piece : List Char) : Option Component :=
  if piece = [] ∨ piece = ['.'] then none
  else if piece = ['.', '.'] then some .parent
  else some (.name (String.ofList piece))

/-- The components of a path.  Only the first piece can be the root or a `.` that counts. -/
def components (p : Path) : List Component :=
  match split '/' p.text.toList with
  | [] => []
  | first :: rest =>
    if first = [] then
      if rest.isEmpty then [] else .root :: rest.filterMap componentOf?
    else if first = ['.'] then .current :: rest.filterMap componentOf?
    else (first :: rest).filterMap componentOf?

/-- The plainest spelling with the given components. -/
def ofComponents (cs : List Component) : Path :=
  match cs with
  | [.root] => ⟨"/"⟩
  | cs => ⟨String.ofList (join '/' (cs.map Component.toText))⟩

/-! ### Order -/

/-- Paths are ordered component by component. -/
instance : Ord Path :=
  ⟨compareOn components⟩

instance instTransOrdPath : Std.TransOrd Path :=
  inferInstanceAs (Std.TransCmp (compareOn components))

theorem compare_eq_iff_components {p q : Path} :
    compare p q = .eq ↔ p.components = q.components :=
  Std.LawfulEqOrd.compare_eq_iff_eq (α := List Component)

/-- Do two spellings name the same path? -/
def same (p q : Path) : Bool :=
  p.components == q.components

/-! ### Parts -/

/-- Does the path start at the root? -/
def isAbsolute (p : Path) : Bool :=
  p.components.head? == some .root

/-- The last component, if it is a name. -/
def fileName? (p : Path) : Option String :=
  match p.components.getLast? with
  | some (.name s) => some s
  | _ => none

/-- The path without its last component; the root and the empty path have no parent. -/
def parent? (p : Path) : Option Path :=
  match p.components.getLast? with
  | none | some .root => none
  | some _ => some (ofComponents p.components.dropLast)

/-- The path `q` seen from `p`: an absolute `q` stands for itself. -/
def join (p q : Path) : Path :=
  if q.isAbsolute then q
  else if p.text = "" then q
  else if p.text.toList.getLast? = some '/' then ⟨p.text ++ q.text⟩
  else ⟨p.text ++ "/" ++ q.text⟩

/-- The entry `name` of the directory `p`. -/
def child (p : Path) (name : String) : Path :=
  p.join ⟨name⟩

/-- The part of a file name before its last dot.  A dot at the start does not count. -/
def stem (name : String) : String :=
  let cs := name.toList
  match (cs.reverse.dropWhile (· != '.')) with
  | [] | ['.'] => name
  | _ :: before => String.ofList before.reverse

/-- The path whose file name has `extension` in the place of its own; a path without a file name is
left as it is. -/
def withExtension (p : Path) (extension : String) : Path :=
  match p.fileName? with
  | none => p
  | some name =>
    ofComponents (p.components.dropLast ++ [.name (stem name ++ "." ++ extension)])

/-! ### How a path ends -/

/-- The path without slashes at its end, unless that is all of it. -/
def withoutSlashes (p : Path) : Path :=
  match p.text.toList with
  | [] => p
  | c :: r => ⟨String.ofList (c :: (r.reverse.dropWhile (· == '/')).reverse)⟩

/-- Does the path end in a slash? -/
def endsInSlash (p : Path) : Bool :=
  p.text.toList.getLast? == some '/'

/-- Does the path end in a name, if slashes do not count, and not in dots? -/
def endsInName (p : Path) : Bool :=
  ((split '/' p.text.toList).filter (!·.isEmpty)).getLast?.any fun piece =>
    piece != ['.'] && piece != ['.', '.']

/-! ### Relative spelling -/

/-- Does a piece behind the first one stand for no component? -/
def isSilent (piece : List Char) : Bool :=
  (componentOf? piece).isNone

/-- The pieces behind the first `n` components, where none of them is a leading one. -/
def dropPieces : Nat → List (List Char) → List (List Char)
  | 0, pieces => pieces
  | _ + 1, [] => []
  | n + 1, piece :: pieces =>
    if isSilent piece then dropPieces (n + 1) pieces else dropPieces n pieces

/-- The pieces behind the first `n` components of a path. -/
def piecesBehind (n : Nat) (p : Path) : List (List Char) :=
  match n, split '/' p.text.toList with
  | n + 1, first :: rest =>
    if first = [] ∨ first = ['.'] then dropPieces n rest else dropPieces (n + 1) (first :: rest)
  | _, pieces => pieces

/-- The pieces without those at the end that stand for nothing. -/
def trimRight (pieces : List (List Char)) : List (List Char) :=
  (pieces.reverse.dropWhile isSilent).reverse

/-- The path as it is spelled, without slashes and dots at its end. -/
def trimmed (p : Path) : Path :=
  match split '/' p.text.toList with
  | [] => p
  | first :: rest =>
    match first, trimRight rest with
    | [], [] => if rest.isEmpty then ⟨""⟩ else ⟨"/"⟩
    | first, rest => ⟨String.ofList (Text.join '/' (first :: rest))⟩

/-- What is left of the path behind the components of `base`, in its own spelling, if its components
start with them. -/
def relativeTo? (p base : Path) : Option Path :=
  let n := base.components.length
  if p.components.take n = base.components then
    if n = 0 then some p.trimmed
    else
      some ⟨String.ofList (Text.join '/' (trimRight ((piecesBehind n p).dropWhile isSilent)))⟩
  else none

end Path

end ImportCensus
