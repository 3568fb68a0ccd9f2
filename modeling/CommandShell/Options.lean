import CommandShell.Arguments
import CommandShell.Text.WhiteSpace

/-!
# Options of the program

The program runs one line, or it reads lines with a prompt; either way a filter chooses the log
lines. The filter comes from its option, else from the environment, and one that is all white space
counts as the default.
-/

namespace CommandShell

structure Options where
  /-- The line to run instead of reading lines. -/
  command : Option Text
  prompt : Text
  log : Option Text
  deriving DecidableEq, Repr

namespace Options

def programName : Text := "linesh".toList

/-- The variable with the log filter. -/
def logVariable : Text := "LINESH_LOG".toList

def defaultPrompt : Text := "$ ".toList

def defaultFilter : Text := "warn".toList

def grammar : ArgumentGrammar where
  options := [["-c".toList, "--command".toList], ["--prompt".toList], ["--log".toList]]
  positionals := .none
  help := Text.ofLines [
    "Usage: linesh [-c <command>] [--prompt <prompt>] [--log <log>]",
    "",
    "A line-oriented command interpreter with built-ins and output redirection.",
    "",
    "Options:",
    "  -c, --command     run a single command line and exit with its status.",
    "  --prompt          prompt printed before each input line.",
    "  --log             tracing filter for diagnostics on stderr, e.g. \"debug\"",
    "                    (overrides LINESH_LOG).",
    "  --help, help      display usage information"]

def ofArguments (a : Arguments) : Options :=
  ⟨a.value? 0, (a.value? 1).getD defaultPrompt, a.value? 2⟩

/-- The options that arguments set, or none if they ask for help. -/
def read (args : List Text) : Except ArgumentError (Option Options) :=
  match grammar.read args with
  | .error e => .error e
  | .ok .help => .ok none
  | .ok (.run a) => .ok (some (ofArguments a))

/-- The text of the log filter, given the value of `logVariable`. -/
def filterText (o : Options) (fromEnvironment : Option Text) : Text :=
  match o.log.or fromEnvironment with
  | none => defaultFilter
  | some f => if Text.isAllWhiteSpace f then defaultFilter else f

end Options

end CommandShell
