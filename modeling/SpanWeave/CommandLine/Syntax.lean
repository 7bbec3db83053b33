import SpanWeave.Text.Digits
import SpanWeave.Text.Quoted

/-!
# The command line

What may be written on the command line of the program and of each of its commands: switches, some
of which take a value, and operands. Switches of two dashes may be shortened, and switches of one
dash may be written together.
-/

set_option autoImplicit false

namespace SpanWeave

/-- A switch. -/
inductive Switch where
  | help
  | verbose
  | logFile
  | output
  | dryRun
deriving DecidableEq, Repr

namespace Switch

/-- The names of a switch. -/
def names : Switch → List String
  | help => ["-h", "--help"]
  | verbose => ["-v", "--verbose"]
  | logFile => ["--log-file"]
  | output => ["-o", "--output"]
  | dryRun => ["--dry-run"]

/-- Whether a value follows the switch. -/
def takesValue : Switch → Bool
  | logFile | output => true
  | _ => false

/-- The switch as it is reported. -/
def title (s : Switch) : String := String.intercalate "/" s.names

end Switch

/-- What is wrong with a command line. -/
inductive Misuse where
  | ambiguous (written : String) (choices : List String)
  | unwantedValue (switch : Switch) (value : String)
  | missingValue (switch : Switch)
  | unknownCommand (name : String)
  | missingCommand
  | unrecognized (words : List String)
deriving DecidableEq, Repr

/-- The report of what is wrong. -/
def Misuse.message : Misuse → String
  | ambiguous written choices =>
    "ambiguous option: " ++ written ++ " could match " ++ String.intercalate ", " choices
  | unwantedValue switch value =>
    "argument " ++ switch.title ++ ": ignored explicit argument " ++ Text.quoted value
  | missingValue switch => "argument " ++ switch.title ++ ": expected one argument"
  | unknownCommand name =>
    "argument command: invalid choice: " ++ Text.quoted name ++ " (choose from 'generate', 'check')"
  | missingCommand => "the following arguments are required: command"
  | unrecognized words => "unrecognized arguments: " ++ String.intercalate " " words

/-- What can be written for the program or for one command. -/
structure CommandSyntax where
  program : String
  switches : List Switch
  usage : String
  /-- What the help says behind the usage. -/
  details : List String
deriving DecidableEq, Repr

namespace CommandSyntax

/-- All names of switches, in order. -/
def names (s : CommandSyntax) : List (String × Switch) :=
  s.switches.flatMap fun switch => switch.names.map fun name => (name, switch)

/-- The help. -/
def help (s : CommandSyntax) : String := String.intercalate "\n" (s.usage :: s.details) ++ "\n"

/-- The report of misuse. -/
def complaint (s : CommandSyntax) (m : Misuse) : String :=
  s.usage ++ "\n" ++ s.program ++ ": error: " ++ m.message ++ "\n"

/-- The program itself; a command follows its switches. -/
def main : CommandSyntax :=
  { program := "instrumentgen"
    switches := [.help, .verbose, .logFile]
    usage := "usage: instrumentgen [-h] [-v] [--log-file LOG_FILE] \x7bgenerate,check\x7d ..."
    details :=
      ["",
        "Generate traced wrapper classes for classes marked with @Instrumentation.",
        "",
        "positional arguments:",
        "  \x7bgenerate,check\x7d",
        "    generate           Generate wrapper modules for every eligible marked",
        "                       class.",
        "    check              List marked classes and whether a wrapper would be",
        "                       generated.",
        "",
        "options:",
        "  -h, --help           show this help message and exit",
        "  -v, --verbose        Increase log verbosity for troubleshooting.",
        "  --log-file LOG_FILE  Also write debug-level logs, including worker thread",
        "                       names, to this file."] }

/-- The command that generates wrappers. -/
def generate : CommandSyntax :=
  { program := "instrumentgen generate"
    switches := [.help, .verbose, .output, .dryRun]
    usage := "usage: instrumentgen generate [-h] [-v] [-o OUTPUT] [--dry-run] [path]"
    details :=
      ["",
        "positional arguments:",
        "  path                  Path to the source tree (defaults to current",
        "                        directory).",
        "",
        "options:",
        "  -h, --help            show this help message and exit",
        "  -v, --verbose         Increase log verbosity for troubleshooting.",
        "  -o OUTPUT, --output OUTPUT",
        "                        Directory to write wrappers into (defaults to next to",
        "                        each source module).",
        "  --dry-run             Print generated modules instead of writing them."] }

/-- The command that lists marked classes. -/
def check : CommandSyntax :=
  { program := "instrumentgen check"
    switches := [.help, .verbose]
    usage := "usage: instrumentgen check [-h] [-v] [path]"
    details :=
      ["",
        "positional arguments:",
        "  path           Path to the source tree (defaults to current directory).",
        "",
        "options:",
        "  -h, --help     show this help message and exit",
        "  -v, --verbose  Increase log verbosity for troubleshooting."] }

end CommandSyntax

end SpanWeave
