/-
ImportCensus/Source/Reference.lean

Where a source text refers to another module.  Four forms of reference are recognised, each by its own
scan over the raw text; comments and strings are not told apart from code.

  * `require`        a call of `require` with one literal;
  * `importFrom`     `import`, then bindings, then `from` and a literal;
  * `dynamicImport`  a call of `import` with one literal;
  * `sideEffect`     `import` directly before a literal.

A scan reads the text from left to right.  At each place where a word may start it asks whether the
form stands there; if so it reports the literal and goes on behind the form, if not it goes on behind
one character.

The bindings between `import` and `from` may hold anything but a semicolon, a quote of either kind or
a backtick, so the first such character after `import` decides: it has to be a quote, and the last word
before it has to be `from`.
-/
import ImportCensus.Source.Literal

namespace ImportCensus.Source

open Text

/-- The four forms of reference. -/
inductive Form where
  | require
  | importFrom
  | dynamicImport
  | sideEffect
  deriving DecidableEq, Repr

/-- A form found at the head of a text: how far on its literal opens, what the literal quotes, and
how many characters the form takes. -/
structure Hit where
  offset : Nat
  literal : List Char
  length : Nat
  deriving DecidableEq, Repr

/-- A literal found in a text: the position of its opening quote and what it quotes. -/
structure Literal where
  position : Nat
  text : List Char
  deriving DecidableEq, Repr

/-! ### Pieces of a form -/

/-- What follows `w` if the text starts with it. -/
def dropWord : List Char → List Char → Option (List Char)
  | [], s => some s
  | _ :: _, [] => none
  | w :: ws, c :: s => if w == c then dropWord ws s else none

/-- The text without the blanks at its head. -/
def skipBlanks (s : List Char) : List Char :=
  s.dropWhile isBlank

/-- Does the text start with a word character? -/
def startsInWord : List Char → Bool
  | [] => false
  | c :: _ => isWord c

/-- May bindings hold `c`? -/
def isBinding (c : Char) : Bool :=
  c != ';' && c != '\'' && c != '"' && c != '`'

/-- Is `from`, blanks apart, the last word of the text, with another character before it? -/
def endsWithFrom (gap : List Char) : Bool :=
  match (gap.reverse.dropWhile isBlank) with
  | 'm' :: 'o' :: 'r' :: 'f' :: c :: _ => !isWord c
  | _ => false

/-- The hit whose literal opens at `quote` and which ends before `rest`, both tails of `s`. -/
def hit (s quote rest : List Char) (literal : List Char) : Hit :=
  { offset := s.length - quote.length, literal, length := s.length - rest.length }

/-! ### The forms -/

/-- `word ( "…" )`. -/
def callAt (word s : List Char) : Option Hit := do
  let afterWord ← dropWord word s
  let inside ← dropWord ['('] (skipBlanks afterWord)
  let quote := skipBlanks inside
  let (literal, behind) ← readLiteral quote
  let rest ← dropWord [')'] (skipBlanks behind)
  return hit s quote rest literal

/-- `import … from "…"`. -/
def importFromAt (s : List Char) : Option Hit := do
  let afterWord ← dropWord "import".toList s
  guard (!startsInWord afterWord)
  let quote := afterWord.dropWhile isBinding
  guard (endsWithFrom (afterWord.takeWhile isBinding))
  let (literal, rest) ← readLiteral quote
  return hit s quote rest literal

/-- `import "…"`. -/
def sideEffectAt (s : List Char) : Option Hit := do
  let afterWord ← dropWord "import".toList s
  let quote := skipBlanks afterWord
  let (literal, rest) ← readLiteral quote
  return hit s quote rest literal

/-- The hit of a form at the head of a text, if it stands there. -/
def Form.at (form : Form) (s : List Char) : Option Hit :=
  match form with
  | .require => callAt "require".toList s
  | .importFrom => importFromAt s
  | .dynamicImport => callAt "import".toList s
  | .sideEffect => sideEffectAt s

/-! ### The scan -/

/-- Scans a text that starts at `position`.  `inWord` says whether the character before it is a word
character; the next `skip` characters belong to a form that was already reported. -/
def scanFrom (form : Form) (inWord : Bool) (skip position : Nat) : List Char → List Literal
  | [] => []
  | c :: r =>
    match skip with
    | skip + 1 => scanFrom form (isWord c) skip (position + 1) r
    | 0 =>
      match if inWord then none else form.at (c :: r) with
      | some h =>
        { position := position + h.offset, text := h.literal } ::
          scanFrom form (isWord c) (h.length - 1) (position + 1) r
      | none => scanFrom form (isWord c) 0 (position + 1) r

/-- The literals of one form in a text, from left to right. -/
def Form.scan (form : Form) (text : List Char) : List Literal :=
  scanFrom form false 0 0 text

/-- The forms in the order in which they are reported. -/
def forms : List Form :=
  [.require, .importFrom, .dynamicImport, .sideEffect]

/-- All references in a text, grouped by form. -/
def references (text : List Char) : List Literal :=
  forms.flatMap (·.scan text)

/-- What the references of a text quote: raw, with repetitions, grouped by form. -/
def specifiers (text : String) : List String :=
  (references text.toList).map fun l => String.ofList l.text

end ImportCensus.Source
