/-
ImportCensus/CommandLine/Reader.lean

Reading a command from arguments, from left to right.

The value of a setting may be a part of its argument, or the next argument.  In the second case it is
looked at only when the next key or path follows or all arguments have been read, so that the arguments
of a deeper level are looked at before it.  A word opens a deeper level unless it stands behind a path
or where a value is due.
-/
import ImportCensus.CommandLine

namespace ImportCensus

namespace CommandLine

/-- What is still to be done with the arguments that have been read. -/
inductive Pending where
  | nothing
  /-- A path was the last thing; more may follow. -/
  | path
  /-- The next argument is the value of a setting. -/
  | wanted (s : Setting)
  /-- The value of a setting has been read, but not looked at. -/
  | given (s : Setting) (value : String)
  deriving DecidableEq, Repr

/-- Where the arguments of a level end before the last one. -/
inductive Turn where
  /-- At the word that asks for help on the words behind it. -/
  | help (topic : List String)
  /-- At a word that opens a deeper level. -/
  | deeper (level : Level) (arguments : List String)
  deriving DecidableEq, Repr

/-- What has been read on a level. -/
structure Reading where
  seen : Seen
  pending : Pending
  turn : Option Turn
  deriving DecidableEq, Repr

/-- Looks at the value that is pending. -/
def settle (seen : Seen) : Pending → Except Stop Seen
  | .nothing | .path => .ok seen
  | .wanted _ => .error .misuse
  | .given s value => seen.give value s

/-- Everything that has been read on a level. -/
def Reading.settled (r : Reading) : Except Stop Seen :=
  settle r.seen r.pending

/-- May a word open a deeper level? -/
def Pending.allowsTurn : Pending → Bool
  | nothing | given .. => true
  | path | wanted _ => false

/-- Where a word leads that may open a deeper level. -/
def turn? (level : Level) (pending : Pending) (word : String) (rest : List String) : Option Turn :=
  if pending.allowsTurn then
    if level.hasChildren ∧ word = "help" then some (.help rest)
    else (level.child? word).map (.deeper · rest)
  else none

/-! ### Arguments with hyphens -/

/-- Reads a key, perhaps with its value. -/
def readKey (seen : Seen) (pending : Pending) (key : Option Key) (value : Option String) :
    Except Stop (Seen × Pending) :=
  match key, value with
  | none, _ => .error .misuse
  | some (.switch _), some _ => .error .misuse
  | some (.switch s), none => do return (← (← settle seen pending).turnOn s, .nothing)
  | some (.setting s), some value => do return (← (← settle seen pending).give value s, .nothing)
  | some (.setting s), none => do return (← settle seen pending, .wanted s)

/-- Reads what stands behind two hyphens: a word, and perhaps an equals sign and a value. -/
def readLong (level : Level) (seen : Seen) (pending : Pending) (text : List Char) :
    Except Stop (Seen × Pending) :=
  let name := text.takeWhile (· != '=')
  let value :=
    match text.dropWhile (· != '=') with
    | _ :: value => some (String.ofList value)
    | [] => none
  readKey seen pending (level.long? (String.ofList name)) value

/-- Reads what stands behind one hyphen: letters, of which the first one that names a setting has the
others as its value. -/
def readShort (level : Level) (seen : Seen) (pending : Pending) :
    List Char → Except Stop (Seen × Pending)
  | [] => .ok (seen, pending)
  | c :: rest =>
    match level.short? c with
    | some (.setting s) =>
      let value :=
        match rest with
        | [] => none
        | '=' :: value => some (String.ofList value)
        | value => some (String.ofList value)
      readKey seen pending (some (.setting s)) value
    | key => do
      let (seen, pending) ← readKey seen pending key none
      readShort level seen pending rest

/-! ### Levels -/

/-- Reads a path, if the level has paths. -/
def readPath (level : Level) (seen : Seen) (pending : Pending) (text : String) :
    Except Stop Seen := do
  if level = .program then (← settle seen pending).addPath text else .error .misuse

/-- Reads paths only. -/
def readPaths (level : Level) : Seen → Pending → List String → Except Stop Reading
  | seen, pending, [] => .ok ⟨seen, pending, none⟩
  | seen, pending, a :: rest => do
    readPaths level (← readPath level seen pending a) .path rest

/-- Reads the arguments of a level. -/
def readLevel (level : Level) : Seen → Pending → List String → Except Stop Reading
  | seen, pending, [] => .ok ⟨seen, pending, none⟩
  | seen, pending, a :: rest =>
    match turn? level pending a rest with
    | some turn => .ok ⟨seen, pending, some turn⟩
    | none =>
      match a.toList with
      | ['-', '-'] => readPaths level seen pending rest
      | '-' :: '-' :: text => do
        let (seen, pending) ← readLong level seen pending text
        readLevel level seen pending rest
      | '-' :: c :: text => do
        let (seen, pending) ← readShort level seen pending (c :: text)
        readLevel level seen pending rest
      | _ =>
        match pending with
        | .wanted s => readLevel level seen (.given s a) rest
        | pending => do readLevel level (← readPath level seen pending a) .path rest

/-- Reads the arguments of a level from its start. -/
def startLevel (level : Level) (arguments : List String) : Except Stop Reading :=
  readLevel level .nothing .nothing arguments

/-- What a question for help comes to: each word has to open a level below the one before it, or to be
the last one and ask for help again. -/
def helpOn : Level → List String → Stop
  | _, [] => .help
  | level, word :: rest =>
    if level.hasChildren ∧ word = "help" then if rest.isEmpty then .help else .misuse
    else
      match level.child? word with
      | some level => helpOn level rest
      | none => .misuse

/-! ### Commands -/

/-- The report that the arguments of the first level ask for. -/
def analysisOf (s : Seen) : Analysis where
  paths := if s.paths.isEmpty then [⟨"."⟩] else s.paths
  config := s.config
  offline := s.offline
  concurrency := s.concurrency
  verbose := s.verbose
  format := if s.json then .json else s.format.getD .human

/-- The task that a level asks for. -/
def taskOf (level : Level) (s : Seen) : Except Stop Task :=
  match level with
  | .init => .ok (.init s.force)
  | .path => .ok .path
  | .display => .ok .display
  | .validate => .ok .validate
  | _ => .error .misuse

/-- Reads the name of a task and what belongs to it; `above` is what was read before. -/
def readTask (above : Reading) (arguments : List String) : Except Stop Command := do
  let middle ← startLevel .config arguments
  match middle.turn with
  | none => .error .misuse
  | some (.help topic) => .error (helpOn .config topic)
  | some (.deeper level arguments) =>
    let inner ← (← startLevel level arguments).settled
    let middle ← middle.settled
    let above ← above.settled
    return .config (← taskOf level inner) (inner.config <|> middle.config <|> above.config)

/-- Reads a command. -/
def read (arguments : List String) : Except Stop Command := do
  let top ← startLevel .program arguments
  match top.turn with
  | none => return .analysis (analysisOf (← top.settled))
  | some (.help topic) => .error (helpOn .program topic)
  | some (.deeper _ arguments) => readTask top arguments

end CommandLine

end ImportCensus
