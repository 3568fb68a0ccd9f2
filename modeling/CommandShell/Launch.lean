import CommandShell.Log.Filter
import CommandShell.Options
import CommandShell.Repl

/-!
# A run of the program

The program reads its arguments, runs one line or all lines of its input, and ends with the status
modulo 256. The log lines that the filter shows go to the standard error, between the other texts.
Both standard streams take what they get.
-/

namespace CommandShell

structure Launch where
  args : List Text
  input : Text
  vars : Variables
  tree : FileTree
  workDir : Place
  deriving DecidableEq

structure Ending where
  /-- The exit status, below 256. -/
  status : Nat
  out : Text
  err : Text
  tree : FileTree
  deriving DecidableEq

namespace Launch

/-- The standard error with the log lines that a filter shows. -/
def errorText (filter : Log.Filter) (time : Text) (records : List Record) : Text :=
  records.flatMap fun
    | .written .err t => t
    | .written .out _ => []
    | .noted e => if filter.shows e then e.line time else []

/-- The status as the system keeps it. -/
def exitStatus (code : ExitCode) : Nat := (code % 256).toNat

/-- How the program tells that it could not read its arguments. -/
def refusal (e : ArgumentError) : Text :=
  Text.line e.message ++ Text.line ("Run ".toList ++ Options.programName ++
    " --help for more information.".toList)

/-- Runs the line that the options give, or all lines of the input. -/
def runShell (sh : Shell) (o : Options) (st : State) : State × ExitCode :=
  match o.command with
  | some line => sh.runReporting line st
  | none => sh.repl o.prompt st

/-- The filter that the options and the variables choose. -/
def filter (o : Options) (vars : Variables) : Log.Filter :=
  .ofText (o.filterText (vars.get? Options.logVariable))

/-- Runs the program, with the time that log lines show. -/
def run (pf : Platform) (time : Text) (l : Launch) : Ending :=
  match Options.read l.args with
  | .error e => ⟨1, [], refusal e, l.tree⟩
  | .ok none => ⟨0, Text.line Options.grammar.help, [], l.tree⟩
  | .ok (some o) =>
    let sh : Shell := ⟨.standard, pf⟩
    match runShell sh o (sh.start l.tree l.workDir l.vars l.input) with
    | (st, code) =>
      ⟨exitStatus code, st.output .out, errorText (filter o l.vars) time st.transcript, st.tree⟩

end Launch

end CommandShell
