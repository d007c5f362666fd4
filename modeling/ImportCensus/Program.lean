/-
ImportCensus/Program.lean

What a run of the program starts from and what it leaves behind, and how it tells of a trouble.

A trouble is told with what the program was about to do first, and then with its causes, each of which is
behind the one before it.
-/
import ImportCensus.Config.Store
import ImportCensus.Registry.Client
import ImportCensus.Survey.Target

namespace ImportCensus

/-- What a run of the program starts from. -/
structure Environment where
  files : FileSystem
  /-- Where the user's own files are, if that is known. -/
  home : Option Path
  transport : Registry.Transport
  /-- Does the output show colours? -/
  colour : Bool

/-- What a run of the program leaves behind. -/
structure Outcome where
  exit : Nat
  output : String
  /-- What is written beside the output. -/
  messages : String
  files : FileSystem
  /-- What the registry was asked, in the order in which it was asked. -/
  requests : List Registry.Request

/-! ### Troubles -/

/-- What has gone wrong. -/
structure Trouble where
  headline : String
  /-- What is behind it, the innermost cause last. -/
  causes : List String
  deriving DecidableEq, Repr

namespace Trouble

/-- A text with something before its first line and something else before the others. -/
def indented (first others text : List Char) : List Char :=
  first ++ text.flatMap fun c => if c = '\n' then '\n' :: others else [c]

/-- A number filled up to five characters from the left. -/
def numberField (n : Nat) : List Char :=
  let digits := Nat.toDigits 10 n
  List.replicate (5 - digits.length) ' ' ++ digits

/-- The causes, each with its number. -/
def numbered (causes : List String) : List Char :=
  causes.zipIdx.flatMap fun (cause, n) =>
    '\n' :: indented (numberField n ++ [':', ' ']) (List.replicate 7 ' ') cause.toList

/-- The text that tells of a trouble. -/
def report (t : Trouble) : String :=
  let causes :=
    match t.causes with
    | [] => []
    | [cause] =>
      let margin := List.replicate 4 ' '
      "\n\nCaused by:\n".toList ++ indented margin margin cause.toList
    | causes => "\n\nCaused by:".toList ++ numbered causes
  "Error: " ++ t.headline ++ String.ofList causes ++ "\n"

/-- Something that cannot be surveyed. -/
def ofSurvey (headline : String) (p : Survey.Problem) : Trouble :=
  let inner :=
    match p with
    | .unreadable _ cause => [cause.message]
    | _ => []
  ⟨headline, p.message :: inner⟩

/-- Settings that cannot be used. -/
def ofConfig (headline : String) (f : Config.Failure) : Trouble :=
  ⟨headline, f.message :: f.cause?.toList⟩

/-- Settings whose file is unknown. -/
def ofNoFile (f : Config.Failure) : Trouble :=
  ⟨f.message, f.cause?.toList⟩

/-- A registry whose addresses cannot be used. -/
def ofRegistry (headline : String) (f : Registry.Failure) : Trouble :=
  let inner :=
    match f with
    | .badUrl fault => [fault.message]
    | _ => []
  ⟨headline, f.message :: inner⟩

end Trouble

namespace Outcome

/-- A run that goes well without the registry. -/
def printed (files : FileSystem) (output messages : String) : Outcome :=
  ⟨0, output, messages, files, []⟩

/-- A run that ends in a trouble before the registry is asked. -/
def failed (files : FileSystem) (t : Trouble) : Outcome :=
  ⟨1, "", t.report, files, []⟩

end Outcome

end ImportCensus
