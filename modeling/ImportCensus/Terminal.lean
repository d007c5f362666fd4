/-
ImportCensus/Terminal.lean

Text for terminals: styles, and the escape sequences that switch them on and off.

A styled text is opened by the sequence of its style and closed by the reset sequence.  If the text
itself resets the style, the style is switched on again behind that.

Main statement: without colours a styled text is the text (`paint_plain`).
-/

namespace ImportCensus.Terminal

/-- The styles in use. -/
inductive Style where
  | bold
  | dimmed
  | red
  | green
  | yellow
  | blue
  | cyan
  | boldYellow
  deriving DecidableEq, Repr

/-- The character that starts an escape sequence. -/
def escape : Char :=
  '\x1b'

/-- The parameters of a style's sequence. -/
def Style.parameters : Style → List Char
  | bold => ['1']
  | dimmed => ['2']
  | red => ['3', '1']
  | green => ['3', '2']
  | yellow => ['3', '3']
  | blue => ['3', '4']
  | cyan => ['3', '6']
  | boldYellow => ['1', ';', '3', '3']

/-- The sequence with the given parameters. -/
def sequence (parameters : List Char) : List Char :=
  escape :: '[' :: parameters ++ ['m']

/-- The sequence that switches all styles off. -/
def reset : List Char :=
  sequence ['0']

/-- A text in which a style is switched on again behind each reset. -/
def restyle (on : List Char) : List Char → List Char
  | '\x1b' :: '[' :: '0' :: 'm' :: r => reset ++ on ++ restyle on r
  | c :: r => c :: restyle on r
  | [] => []

/-- A text in a style, if there are colours. -/
def paint (colour : Bool) (style : Style) (s : List Char) : List Char :=
  if colour then
    let on := sequence style.parameters
    on ++ restyle on s ++ reset
  else s

theorem paint_plain (style : Style) (s : List Char) : paint false style s = s :=
  rfl

/-! ### Taking styles away -/

/-- May `c` be part of the parameters of a sequence? -/
def isParameter (c : Char) : Bool :=
  c.isDigit || c == ';'

/-- A text without its escape sequences.  `pending` holds what may turn out to be the start of one. -/
def stripFrom (pending : List Char) : List Char → List Char
  | [] => pending
  | c :: r =>
    match pending with
    | [] => if c = escape then stripFrom [c] r else c :: stripFrom [] r
    | [e] =>
      if c = '[' then stripFrom [e, c] r
      else if c = escape then e :: stripFrom [c] r
      else e :: c :: stripFrom [] r
    | pending =>
      if c = 'm' then stripFrom [] r
      else if isParameter c then stripFrom (pending ++ [c]) r
      else if c = escape then pending ++ stripFrom [c] r
      else pending ++ c :: stripFrom [] r

/-- A text without its escape sequences. -/
def strip (s : List Char) : List Char :=
  stripFrom [] s

end ImportCensus.Terminal
