import CommandShell.LineEdit
import CommandShell.Shell

/-!
# Reading and running lines

The shell reads one line after the other and runs each, until a request to exit is there after a
line or the input ends. The result is the status that was asked for, or that of the last line. A
failure of a line does not end the loop, unless it cannot be told; an input that ends within a
character and a prompt that cannot be written do.

The loop carries a bound on the number of lines that are left; the length of the input is one, since
each line takes a character from it.
-/

namespace CommandShell

namespace Shell

/-- The state in which a line is read. On a plain terminal the prompt is written although the input
is no terminal. -/
def prompting (prompt : Text) (st : State) : State × Except IoError Unit :=
  if Terminal.isPlain st.inherited then
    match (st.note .plainTerminal).print (.own .out) [prompt] with
    | (st', .error e) => (st', .error e)
    | (st', .ok ()) => (st', st'.flush [.own .out])
  else (st.note .readingPlainInput, .ok ())

/-- What an attempt to read a line gives. -/
inductive Reading where
  | line (t : Text)
  /-- The input has ended. -/
  | ended
  /-- The prompt cannot be written, or the input ends within a character. -/
  | failed (message : Text)
  deriving DecidableEq, Repr

/-- The message for an input that ends within a character. -/
def tornInput : Text := "stream did not contain valid UTF-8".toList

def readLine (prompt : Text) (st : State) : State × Reading :=
  match prompting prompt st with
  | (st, .error e) => (st, .failed e.message)
  | (st, .ok ()) =>
    if st.input.endsTorn then (st, .failed tornInput)
    else
      match st.input.readLine with
      | ([], input) => ({ st with input := input }, .ended)
      | (line, input) =>
        ({ st with input := input }, .line (LineEdit.applyBackspaces (LineEdit.chomp line)))

/-- How the shell tells that no line could be read. -/
def readFailure (message : Text) : Text :=
  Text.line ("Error: ".toList ++ message) ++ Text.line [] ++ Text.line "Caused by:".toList ++
    Text.line ("    ".toList ++ message)

/-- Reads and runs at most `bound` lines, where `last` is the status of the line before. -/
def loop (sh : Shell) (prompt : Text) : Nat → ExitCode → State → State × ExitCode
  | 0, last, st => (st, last)
  | bound + 1, last, st =>
    match readLine prompt st with
    | (st, .ended) => (st, last)
    | (st, .failed message) => (st.tryWrite (.own .err) (readFailure message), 1)
    | (st, .line line) =>
      match sh.report line st with
      | (st, none) => (st, abortedStatus)
      | (st, some code) =>
        match st.env.requestedExit with
        | some requested => (st, requested)
        | none => loop sh prompt bound code st

def repl (sh : Shell) (prompt : Text) (st : State) : State × ExitCode :=
  sh.loop prompt (st.input.all.length + 1) 0
    (st.note (.measuredTerminal (Terminal.clusterDisplay st.inherited)))

end Shell

end CommandShell
