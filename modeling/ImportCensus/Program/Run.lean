/-
ImportCensus/Program/Run.lean

The whole program, from the arguments to what it leaves behind.

The usage text, which also answers arguments that are not understood, is in this library's own words and not in
those of the tool that it models: nothing is said here about it but where it is printed and with which exit code.
-/
import ImportCensus.CommandLine.Reader
import ImportCensus.Program.Analysis
import ImportCensus.Program.Settings

namespace ImportCensus.Program

open CommandLine

/-- The name and version of the program. -/
def versionLine : String :=
  "tally 0.0.1\n"

/-- What the program can be asked for, in short. -/
def usage : String :=
  "Usage: tally [OPTIONS] [PATHS]...\n"
    ++ "       tally [OPTIONS] config <init|path|show|validate>\n"
    ++ "\n"
    ++ "  -f, --output <human|json>  Output format\n"
    ++ "      --json                 Output JSON format (alias for --output json)\n"
    ++ "      --offline              Skip registry requests; report local usage only\n"
    ++ "      --concurrency <N>      Maximum number of packages fetched at the same time\n"
    ++ "      --config <FILE>        Configuration file path (default: ~/.tally/config.toml)\n"
    ++ "  -v                         Verbose output\n"
    ++ "  -h, --help                 Print help\n"
    ++ "  -V, --version              Print version\n"

/-- The run that a command asks for. -/
def perform (env : Environment) : Command → Outcome
  | .analysis o => analyze env o
  | .config task file => manageSettings env task file

/-- The run without a command. -/
def stopped (env : Environment) : Stop → Outcome
  | .misuse => ⟨2, "", usage, env.files, []⟩
  | .help => .printed env.files usage ""
  | .version => .printed env.files versionLine ""

/-- The run with the given arguments. -/
def run (env : Environment) (arguments : List String) : Outcome :=
  match CommandLine.read arguments with
  | .ok command => perform env command
  | .error stop => stopped env stop

end ImportCensus.Program
