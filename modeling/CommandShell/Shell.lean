import CommandShell.Builtin
import CommandShell.Lookup
import CommandShell.Program
import CommandShell.Target

/-!
# Running a line

A line goes through five stages, each of which can stop it: its tokens, its command, what the name
of the command stands for, the target of its redirection, and the run. A name is dispatched to the
built-in command that is registered under exactly this name and knows it, else to a program.

Main statements: the stages take place in this order, since each is given only what the one before
left (`runLine_of_lexError`, `runLine_of_parseError`, `runLine_nil`).
-/

namespace CommandShell

/-- A shell: what is built in, and what surrounds it. -/
structure Shell where
  builtins : CommandTable
  platform : Platform

/-- What a name stands for, ready to run. -/
inductive Dispatched where
  | builtin (name : Text) (action : Action)
  | program (c : ProgramCall)

namespace Dispatched

/-- What the log says about it. -/
def event : Dispatched → Event
  | .builtin name _ => .dispatchedBuiltin name
  | .program c => .resolvedProgram c.name c.program

/-- Runs it while some files are kept open for writing besides those of its streams. -/
def runHolding (pf : Platform) (held : List Address) : Dispatched → Action
  | .builtin _ action => action
  | .program c => c.run pf held

def run (pf : Platform) : Dispatched → Action := runHolding pf []

end Dispatched

namespace Shell

def environment (sh : Shell) (workDir : Place) (inherited : Variables) : Environment where
  vars := inherited.collected
  currentDir := workDir.path?.getD ['.']
  requestedExit := none
  builtinNames := sh.builtins.names

/-- A shell that starts. If nothing else is said, its standard streams take what they get, and the
process may move to every directory. -/
def start (sh : Shell) (tree : FileTree) (workDir : Place) (inherited : Variables)
    (input : Text) (standard : StandardStreams := .taking)
    (barred : List (Address × OsError) := []) : State where
  env := sh.environment workDir inherited
  tree := tree
  workDir := workDir
  inherited := inherited
  input := .ofText input
  transcript := []
  standard := standard
  barred := barred

def builtin? (sh : Shell) (env : Environment) (name : Text) (args : List Text) : Option Action :=
  match sh.builtins.get? name with
  | none => none
  | some handler => handler env name args

def program? (st : State) (name : Text) (args : List Text) : Option ProgramCall :=
  (Lookup.command? st.tree st.workDir (st.env.searchPath st.inherited) st.env.currentDir name).map
    fun program => ⟨name, program, args⟩

def dispatch (sh : Shell) (st : State) : List Text → Except LineError Dispatched
  | [] => .error (.commandNotFound [])
  | name :: args =>
    match sh.builtin? st.env name args with
    | some action => .ok (.builtin name action)
    | none =>
      match program? st name args with
      | some c => .ok (.program c)
      | none => .error (.commandNotFound name)

/-- The state after an attempt to open a target, and the sink. -/
def openSink (st : State) (r : Redirection) : State × Except TargetError Sink :=
  match Redirection.openTarget st.tree st.workDir st.env.currentDir r.filename r.mode with
  | (tree, .error e) => ({ st with tree := tree }, .error e)
  | (tree, .ok w) =>
    (({ st with tree := tree }).note
      (.openedTarget (Path.join st.env.currentDir r.filename) r.mode), .ok (.target w))

/-- Runs a command whose redirection, if it has one, is still to be opened. The stream in whose
place the target stands stays open meanwhile. -/
def runRedirected (sh : Shell) (d : Dispatched) (r : Option Redirection) (streams : Streams)
    (st : State) : State × Except LineError ExitCode :=
  match r with
  | none => d.run sh.platform streams st
  | some r =>
    match openSink st r with
    | (st', .error e) => (st', .error (.redirect e))
    | (st', .ok sink) => d.runHolding sh.platform (streams.sink r.stream).file?.toList
        (streams.divert r.stream sink) st'

def runCommand (sh : Shell) (c : Command) (streams : Streams) (st : State) :
    State × Except LineError ExitCode :=
  match sh.dispatch st c.argv with
  | .error e => (st, .error e)
  | .ok d => sh.runRedirected d c.redirection streams (st.note d.event)

/-- The state with a note about spare words, if there are any. -/
def noteIgnored (st : State) (words : List Text) : State :=
  if words = [] then st else st.note (.ignoredWords words)

def runTokens (sh : Shell) (ts : List Token) (streams : Streams) (st : State) :
    State × Except LineError ExitCode :=
  match Command.parse ts with
  | .error e => (st, .error (.parsing e))
  | .ok none => (st, .ok 0)
  | .ok (some p) => sh.runCommand p.command streams (noteIgnored st p.ignored)

def runLine (sh : Shell) (line : Text) (streams : Streams) (st : State) :
    State × Except LineError ExitCode :=
  match Token.ofLine line with
  | .error e => (st, .error (.lexing e))
  | .ok ts => sh.runTokens ts streams (st.note (.tokenized ts))

/-- Runs a line on the standard streams, with a line on the standard error if it fails. There is no
status if the standard error refuses that. -/
def report (sh : Shell) (line : Text) (st : State) : State × Option ExitCode :=
  match sh.runLine line .own st with
  | (st', .ok code) => (st', some code)
  | (st', .error e) =>
    match (st'.note (.lineFailed e)).write (.own .err) (Text.line e.message) with
    | .ok st'' => (st'', some e.exitCode)
    | .error _ => (st'.note (.lineFailed e), none)

/-- The status of a shell that could not tell that a line failed: it ends there. -/
def abortedStatus : ExitCode := 101

def runReporting (sh : Shell) (line : Text) (st : State) : State × ExitCode :=
  match sh.report line st with
  | (st', code?) => (st', code?.getD abortedStatus)

theorem runLine_of_lexError {line : Text} {e : LexError} (h : Token.ofLine line = .error e)
    (sh : Shell) (streams : Streams) (st : State) :
    sh.runLine line streams st = (st, .error (.lexing e)) := by
  simp [runLine, h]

theorem runLine_of_parseError {line : Text} {ts : List Token} {e : ParseError}
    (h : Token.ofLine line = .ok ts) (h' : Command.parse ts = .error e) (sh : Shell)
    (streams : Streams) (st : State) :
    sh.runLine line streams st = (st.note (.tokenized ts), .error (.parsing e)) := by
  simp [runLine, h, runTokens, h']

/-- A line without tokens does nothing. -/
theorem runLine_nil {line : Text} (h : Token.ofLine line = .ok []) (sh : Shell)
    (streams : Streams) (st : State) :
    sh.runLine line streams st = (st.note (.tokenized []), .ok 0) := by
  simp [runLine, h, runTokens, Command.parse]

end Shell

end CommandShell
