import CommandShell.State
import CommandShell.Text.WhiteSpace

/-!
# Running commands inside the shell

An action runs a command to its end, with streams, and leaves a state and a status or an error. Most
built-in commands have a body that writes only to the standard output and fails with a text; the
text then becomes a line on the standard error and the status one. What was written is flushed
before the command ends, and the command fails if that cannot be done, whatever it has done before.
-/

namespace CommandShell

/-- A command that is ready to run. -/
abbrev Action := Streams → State → State × Except LineError ExitCode

namespace Action

/-- Ends a command with a status, after sinks were flushed. -/
def settle (sinks : List Sink) (code : ExitCode) (st : State) : State × Except LineError ExitCode :=
  match st.flush sinks with
  | .ok () => (st, .ok code)
  | .error e => (st, .error (.io e))

/-- Ends a command with one line to a sink, before sinks are flushed. -/
def tell (sink : Sink) (line : Text) (flushed : List Sink) (code : ExitCode) (st : State) :
    State × Except LineError ExitCode :=
  match st.print sink [line, ['\n']] with
  | (st', .ok ()) => settle flushed code st'
  | (st', .error e) => (st', .error (.io e))

/-- An action from a body, which is given the standard output. -/
def ofBody (body : Sink → State → State × Except Text ExitCode) : Action := fun streams st =>
  match body streams.out st with
  | (st', .ok code) => settle [streams.out, streams.err] code st'
  | (st', .error message) => tell streams.err message [streams.out, streams.err] 1 st'

def help (text : Text) : Action := fun streams st =>
  tell streams.out (Text.trimEnd text) [streams.out] 0 st

/-- The action of arguments that are refused. -/
def refusal (message : Text) : Action := fun streams st =>
  tell streams.err (Text.trimEnd message) [streams.err] 2 st

/-- Writes a text in pieces, with status zero if that works. -/
def writeBody (ts : List Text) : Sink → State → State × Except Text ExitCode := fun sink st =>
  match st.print sink ts with
  | (st', .ok ()) => (st', .ok 0)
  | (st', .error e) => (st', .error e.message)

def copyInput : Action := fun streams st =>
  let (text, st) := match streams.input with
    | .inherited => (st.input.all, { st with input := .exhausted })
    | .memory t => (t, st)
  match st.print streams.out [text] with
  | (st', .ok ()) => (st', .ok 0)
  | (st', .error e) => (st', .error (.io e))

end Action

end CommandShell
