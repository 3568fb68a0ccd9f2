import CommandShell.Action
import CommandShell.Arguments
import CommandShell.Lookup

/-!
# Telling what names stand for

`type` writes one line for each of its names: that it is built in, in whatever case it is written,
or the file that it stands for, or that it is not found. Its status is one if some name is not
found.
-/

namespace CommandShell

structure Describe where
  names : List Text
  deriving DecidableEq, Repr

/-- What a name stands for. -/
inductive Description where
  | builtin
  | program (p : Path)
  | notFound
  deriving DecidableEq, Repr

namespace Description

/-- The line about a name, with its end, in pieces. -/
def pieces (name : Text) : Description → List Text
  | .builtin => [name, " is a shell builtin\n".toList]
  | .program p => [name, " is ".toList, p, ['\n']]
  | .notFound => [name, ": not found\n".toList]

def text (name : Text) (d : Description) : Text := (d.pieces name).flatten

end Description

namespace Describe

def name : Text := "type".toList

def grammar : ArgumentGrammar where
  options := []
  positionals := .list
  help := Text.ofLines [
    "Usage: type [names...]",
    "",
    "Tell how each name would be interpreted if used as a command.",
    "",
    "Options:",
    "  --help, help      display usage information"]

def usage : Text := "type: usage: type name [name ...]".toList

def describe (st : State) (n : Text) : Description :=
  if st.env.namesBuiltin n then .builtin
  else
    match Lookup.command? st.tree st.workDir (st.env.searchPath st.inherited)
        st.env.currentDir n with
    | some p => .program p
    | none => .notFound

/-- Writes the lines about some names. Looking them up and writing take turns, and the status is the
given one until a name is not found. -/
def writeAll (sink : Sink) (code : ExitCode) : List Text → State → State × Except Text ExitCode
  | [], st => (st, .ok code)
  | n :: ns, st =>
    match st.print sink ((describe st n).pieces n) with
    | (st', .error e) => (st', .error e.message)
    | (st', .ok ()) => writeAll sink (if describe st n = .notFound then 1 else code) ns st'

def body (d : Describe) (sink : Sink) (st : State) : State × Except Text ExitCode :=
  if d.names = [] then (st, .error usage) else writeAll sink 0 d.names st

def action (d : Describe) : Action := .ofBody d.body

end Describe

end CommandShell
