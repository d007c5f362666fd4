/-
ImportCensus/Json/Bytes.lean

Reading JSON from bytes that need not be the encoding of a text.

A byte that belongs to no character may stand in no text that somebody asks for, and it has no meaning
elsewhere.  It is found out at the end of the text in which it stands, so a fault before counts first.  To
read such bytes like others, a filler is put in the place of each, and how much of the text is left there is
kept (`gaps`).
-/
import ImportCensus.Json.Reader
import ImportCensus.Text.Utf8

namespace ImportCensus.Json

open Text

/-! ### Fillers -/

/-- What stands for a byte that belongs to no character: it takes one byte, may stand in a text, and means
nothing outside. -/
def filler : Char :=
  '\x7f'

/-- A text with a filler for each byte that belongs to no character. -/
def filled (characters : List (Option Char)) : List Char :=
  characters.map (·.getD filler)

/-- How much of the text is left at each filler. -/
def gaps : List (Option Char) → List Nat
  | [] => []
  | none :: r => (r.length + 1) :: gaps r
  | some _ :: r => gaps r

/-- Does a filler stand between two rests of a text? -/
def isTorn (gaps : List Nat) (s rest : List Char) : Bool :=
  gaps.any fun gap => rest.length < gap && gap ≤ s.length

/-! ### Reading -/

/-- What has been read from the head of a text, which must not hold a filler there. -/
def whole {α : Type} (gaps : List Nat) (s : List Char) (read : α × List Char) :
    Except Fault (α × List Char) :=
  if isTorn gaps s read.2 then .error (.behind .notUtf8 read.2) else .ok read

/-- A text at the head of another, behind its opening quote, without fillers. -/
def readWholeText (gaps : List Nat) (s : List Char) : Except Fault (List Char × List Char) :=
  readText s >>= whole gaps s

/-- Takes in one blank, or makes one step. -/
def takeIn (limit : Option Nat) (state : State) (c : Char) (r : List Char) : Except Fault (State × List Char) :=
  if isSpace c then .ok (state, r) else step limit state c r

theorem length_le_of_takeIn {limit : Option Nat} {state next : State} {c : Char} {r rest : List Char}
    (h : takeIn limit state c r = .ok (next, rest)) : rest.length ≤ r.length := by
  rw [takeIn] at h
  split at h
  · cases h
    exact Nat.le_refl _
  · exact length_le_of_step h

/-- Takes in one blank, or makes one step, without fillers. -/
def takeInWhole (limit : Option Nat) (gaps : List Nat) (state : State) (c : Char) (r : List Char) :
    Except Fault (State × List Char) :=
  takeIn limit state c r >>= whole gaps (c :: r)

theorem takeIn_of_takeInWhole {limit : Option Nat} {gaps : List Nat} {state next : State} {c : Char}
    {r rest : List Char} (h : takeInWhole limit gaps state c r = .ok (next, rest)) :
    takeIn limit state c r = .ok (next, rest) ∧ isTorn gaps (c :: r) rest = false := by
  rw [takeInWhole] at h
  cases htaken : takeIn limit state c r with
  | error f =>
    rw [htaken] at h
    cases h
  | ok p =>
    rw [htaken] at h
    simp only [bind, Except.bind, whole] at h
    split at h
    · cases h
    · next hwhole =>
      cases h
      exact ⟨rfl, Bool.eq_false_iff.2 hwhole⟩

/-- Reads on from a state. -/
def readWholeFrom (limit : Option Nat) (gaps : List Nat) (state : State) (s : List Char) :
    Except Fault Datum :=
  match s with
  | [] => state.atEnd
  | c :: r =>
    match h : takeInWhole limit gaps state c r with
    | .error f => .error f
    | .ok (state, rest) =>
      have := length_le_of_takeIn (takeIn_of_takeInWhole h).1
      readWholeFrom limit gaps state rest
termination_by s.length

/-- Reads JSON with containers up to the given depth, or of any depth, from the characters of bytes. -/
def readWhole (limit : Option Nat) (characters : List (Option Char)) : Except Fault Datum :=
  readWholeFrom limit (gaps characters) .start (filled characters)

end ImportCensus.Json
