/-
ImportCensus/CommandLine.lean

What a user can ask for on a command line: a report on source files, or a task on the settings.

Arguments stand on levels.  The first level is the program itself; `config` opens a second one, and the
name of a task a third one.  Each level has its own switches and settings; those that every level has may
stand anywhere, and of several the one on the deepest level counts.
-/
import ImportCensus.Path

namespace ImportCensus

namespace CommandLine

/-- How a report is written. -/
inductive Format where
  | human
  | json
  deriving DecidableEq, Repr

/-- The format with a name. -/
def Format.ofName? : String → Option Format
  | "human" => some human
  | "json" => some json
  | _ => none

/-- What report is asked for. -/
structure Analysis where
  paths : List Path
  /-- The file with the settings, if the user names one. -/
  config : Option Path
  /-- Is the registry left alone? -/
  offline : Bool
  /-- How many packages may be asked about together, if the user says so. -/
  concurrency : Option UInt64
  /-- Is everything shown that is known? -/
  verbose : Bool
  format : Format
  deriving DecidableEq, Repr

/-- A task on the settings. -/
inductive Task where
  /-- Writes the standard settings; if there are some already, only if `force` says so. -/
  | init (force : Bool)
  /-- Tells where the settings are. -/
  | path
  /-- Shows the settings. -/
  | display
  /-- Says whether the settings are of use. -/
  | validate
  deriving DecidableEq, Repr

/-- What the program is asked for. -/
inductive Command where
  | analysis (options : Analysis)
  /-- A task on the settings, and the file with them if the user names one. -/
  | config (task : Task) (file : Option Path)
  deriving DecidableEq, Repr

/-- Why there is no command. -/
inductive Stop where
  /-- The arguments make no sense. -/
  | misuse
  | help
  | version
  deriving DecidableEq, Repr

/-! ### Levels -/

/-- A level of arguments. -/
inductive Level where
  | program
  | config
  | init
  | path
  | display
  | validate
  deriving DecidableEq, Repr

/-- The level that a word opens below a level. -/
def Level.child? : Level → String → Option Level
  | program, "config" => some config
  | config, "init" => some init
  | config, "path" => some path
  | config, "show" => some display
  | config, "validate" => some validate
  | _, _ => none

/-- Does any word open a level below? -/
def Level.hasChildren : Level → Bool
  | program | config => true
  | _ => false

/-- A key without a value. -/
inductive Switch where
  | json
  | offline
  | force
  | verbose
  | help
  | version
  deriving DecidableEq, Repr

/-- A key with a value. -/
inductive Setting where
  | format
  | concurrency
  | config
  deriving DecidableEq, Repr

/-- What an argument that starts with a hyphen names. -/
inductive Key where
  | switch (s : Switch)
  | setting (s : Setting)
  deriving DecidableEq, Repr

/-- What a word behind two hyphens names. -/
def Level.long? : Level → String → Option Key
  | _, "config" => some (.setting .config)
  | _, "help" => some (.switch .help)
  | program, "output" => some (.setting .format)
  | program, "json" => some (.switch .json)
  | program, "offline" => some (.switch .offline)
  | program, "concurrency" => some (.setting .concurrency)
  | program, "version" => some (.switch .version)
  | init, "force" => some (.switch .force)
  | _, _ => none

/-- What a letter behind one hyphen names. -/
def Level.short? : Level → Char → Option Key
  | _, 'v' => some (.switch .verbose)
  | _, 'h' => some (.switch .help)
  | program, 'f' => some (.setting .format)
  | program, 'V' => some (.switch .version)
  | _, _ => none

/-! ### What has been read on a level -/

/-- The keys and paths that have been read on a level. -/
structure Seen where
  format : Option Format
  json : Bool
  offline : Bool
  concurrency : Option UInt64
  config : Option Path
  force : Bool
  verbose : Bool
  paths : List Path
  deriving DecidableEq, Repr

namespace Seen

/-- Nothing. -/
def nothing : Seen :=
  ⟨none, false, false, none, none, false, false, []⟩

/-- A value that no earlier one stands against. -/
def once {α : Type} (old : Option α) (new : Option α) : Except Stop (Option α) :=
  match old, new with
  | none, some a => .ok (some a)
  | _, _ => .error .misuse

/-- A switch that has not been turned on yet. -/
def onceOn (old : Bool) : Except Stop Bool :=
  if old then .error .misuse else .ok true

/-- A path; it must not be empty. -/
def path? (text : String) : Option Path :=
  if text = "" then none else some ⟨text⟩

/-- The digits of a number. -/
def digits? (text : List Char) : Option Nat :=
  if text.isEmpty then none
  else
    text.foldl
      (fun n c => n.bind fun n => if c.isDigit then some (10 * n + (c.toNat - '0'.toNat)) else none)
      (some 0)

/-- An unsigned number of 64 bits, perhaps with a plus sign. -/
def count? (text : String) : Option UInt64 :=
  let digits :=
    match text.toList with
    | '+' :: r => r
    | r => r
  (digits? digits).bind fun n => if n < UInt64.size then some (.ofNat n) else none

/-- The same with a switch turned on.  Help and the version are shown at once; only `verbose` may be
turned on again. -/
def turnOn (s : Seen) : Switch → Except Stop Seen
  | .help => .error .help
  | .version => .error .version
  | .verbose => .ok { s with verbose := true }
  | .json => do return { s with json := ← onceOn s.json }
  | .offline => do return { s with offline := ← onceOn s.offline }
  | .force => do return { s with force := ← onceOn s.force }

/-- The same with the value of a setting; it must not have one yet. -/
def give (s : Seen) (value : String) : Setting → Except Stop Seen
  | .format => do return { s with format := ← once s.format (Format.ofName? value) }
  | .concurrency => do return { s with concurrency := ← once s.concurrency (count? value) }
  | .config => do return { s with config := ← once s.config (path? value) }

/-- The same with one more path. -/
def addPath (s : Seen) (text : String) : Except Stop Seen :=
  match path? text with
  | some p => .ok { s with paths := s.paths ++ [p] }
  | none => .error .misuse

end Seen

end CommandLine

end ImportCensus
