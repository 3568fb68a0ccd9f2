import CommandShell.FileTree.Edit
import CommandShell.Input
import CommandShell.Log.Event
import CommandShell.Outlet

/-!
# The state of a running shell

All that a line can read or change is one value: the environment of the shell, the file tree, the
directory of the process and the variables it was started with, the standard input, a transcript of
what was written to the standard streams and noted in the log, in this order, and where these
streams lead. A command writes to sinks: the streams of the shell, streams that are kept in memory,
an opened target, or a stream that the shell was given and that takes nothing.

A sink that refuses takes no text but the empty one (`State.refusal?`). Programs write to a sink
directly (`State.write`); the shell writes its texts in pieces (`State.print`), which makes a
difference for its own standard output alone, and flushes its sinks (`State.flush`).

Main statements: each operation touches one part of the state, and the texts of the standard streams
grow by what is written (`output_put_own`).
-/

namespace CommandShell

inductive Record where
  | written (s : Stream) (t : Text)
  | noted (e : Event)
  deriving DecidableEq, Repr

structure State where
  env : Environment
  tree : FileTree
  /-- The directory of the process. -/
  workDir : Place
  /-- The variables that the process was started with. -/
  inherited : Variables
  input : Input
  transcript : List Record
  /-- Where the standard streams of the process lead. -/
  standard : StandardStreams
  /-- Directories that the system does not let the process move to, with the causes. The first one
  for a directory counts. -/
  barred : List (Address × OsError)
  deriving DecidableEq

inductive Sink where
  | own (s : Stream)
  /-- A standard stream that is kept in memory: programs cannot write to it. -/
  | memory (s : Stream)
  | target (w : WriteTarget)
  /-- A stream that takes nothing, such as a file that is open for reading only, or a pipe without a
  reader. -/
  | refusing (cause : OsError)
  deriving DecidableEq, Repr

/-- The file that a sink keeps open. -/
def Sink.file? : Sink → Option Address
  | .target (.file a) => some a
  | _ => none

inductive Source where
  | inherited
  /-- A text in memory: programs cannot read it. -/
  | memory (t : Text)
  deriving DecidableEq, Repr

structure Streams where
  input : Source
  out : Sink
  err : Sink
  deriving DecidableEq, Repr

namespace Streams

def own : Streams := ⟨.inherited, .own .out, .own .err⟩

def sink (streams : Streams) : Stream → Sink
  | .out => streams.out
  | .err => streams.err

/-- The streams with one of the output streams diverted. -/
def divert (s : Streams) (stream : Stream) (sink : Sink) : Streams :=
  match stream with
  | .out => { s with out := sink }
  | .err => { s with err := sink }

def files (s : Streams) : List Address := [s.out, s.err].filterMap Sink.file?

@[simp] theorem files_own : own.files = [] := rfl

@[simp] theorem sink_out (streams : Streams) : streams.sink .out = streams.out := rfl

@[simp] theorem sink_err (streams : Streams) : streams.sink .err = streams.err := rfl

end Streams

namespace State

def note (st : State) (e : Event) : State := { st with transcript := st.transcript ++ [.noted e] }

def emit (st : State) (s : Stream) (t : Text) : State :=
  { st with transcript := st.transcript ++ [.written s t] }

/-- Moves the process to a directory, unless the system refuses that. -/
def enter (st : State) (place : Place) : State × Except OsError Unit :=
  match st.barred.lookup place.address with
  | some cause => (st, .error cause)
  | none => ({ st with workDir := place }, .ok ())

/-- The cause for which a sink takes nothing. -/
def refusal? (st : State) : Sink → Option OsError
  | .own s => st.standard.refusal? s
  | .memory _ => none
  | .target (.file _) => none
  | .target (.device .null) => none
  | .target (.device .full) => some .noSpace
  | .refusing cause => some cause

/-- The state after a text has gone to a sink. -/
def put (st : State) (sink : Sink) (t : Text) : State :=
  match sink with
  | .own s => st.emit s t
  | .memory s => st.emit s t
  | .target (.file a) => { st with tree := st.tree.appendTo a t }
  | .target (.device _) => st
  | .refusing _ => st

/-- Writes to a sink, unless it refuses. Nothing to write is never refused. -/
def write (st : State) (sink : Sink) (t : Text) : Except IoError State :=
  match st.refusal? sink with
  | none => .ok (st.put sink t)
  | some cause => if t = [] then .ok st else .error (.os cause)

/-- The state after an attempt to write. -/
def tryWrite (st : State) (sink : Sink) (t : Text) : State :=
  match st.write sink t with
  | .ok st' => st'
  | .error _ => st

/-- The state after a program wrote to a sink, which it does whether or not it succeeds. -/
def afterProgramWrote (st : State) (sink : Sink) (t : Text) : State :=
  match sink with
  | .memory _ => st
  | _ => st.tryWrite sink t

/-- Where the standard streams lead after a sink has refused the pieces of a text, and whether that
went unnoticed: the standard output may have collected them, and there may be nothing to write. -/
def afterRefusal (st : State) (sink : Sink) (ts : List Text) : StandardStreams × Bool :=
  match sink, st.standard.out with
  | .own .out, .refusing cause kept =>
    ({ st.standard with out := .refusing cause (Outlet.keepAll kept ts).1 },
      (Outlet.keepAll kept ts).2)
  | _, _ => (st.standard, ts.flatten = [])

/-- Writes the pieces of a text one after the other, up to the first that is refused. -/
def print (st : State) (sink : Sink) (ts : List Text) : State × Except IoError Unit :=
  match st.refusal? sink with
  | none => (st.put sink ts.flatten, .ok ())
  | some cause =>
    ({ st with standard := (st.afterRefusal sink ts).1 },
      if (st.afterRefusal sink ts).2 then .ok () else .error (.os cause))

/-- The cause for which a sink cannot be flushed; only the standard output keeps anything back. -/
def flushRefusal? (st : State) : Sink → Option OsError
  | .own .out => st.standard.out.flushRefusal?
  | _ => none

/-- Flushes sinks one after the other. It changes nothing: what is kept back was refused before. -/
def flush (st : State) (sinks : List Sink) : Except IoError Unit :=
  match sinks.findSome? st.flushRefusal? with
  | none => .ok ()
  | some cause => .error (.os cause)

/-- What an entry of the transcript wrote to a stream. -/
def recordText (s : Stream) : Record → Text
  | .written s' t => if s' = s then t else []
  | .noted _ => []

/-- All that was written to a standard stream. -/
def output (st : State) (s : Stream) : Text := st.transcript.flatMap (recordText s)

def valueOf? (st : State) (name : Text) : Option Text := st.env.get? st.inherited name

/-- The assignments that a program is started with: those of the process itself as long as the shell
has no variable, else those of the map in which the shell's are laid over what was collected from
the process. -/
def programAssignments (st : State) : List Text :=
  if st.env.vars.entries = [] then st.inherited.assignments
  else (st.inherited.collected.overlay st.env.vars).block

@[simp] theorem output_note (st : State) (e : Event) (s : Stream) :
    (st.note e).output s = st.output s := by
  simp [output, note, recordText]

theorem output_emit (st : State) (s s' : Stream) (t : Text) :
    (st.emit s' t).output s = st.output s ++ if s' = s then t else [] := by
  simp [output, emit, recordText]

theorem output_put_own (st : State) (s s' : Stream) (t : Text) :
    (st.put (.own s) t).output s' = st.output s' ++ if s = s' then t else [] :=
  output_emit st s' s t

section

variable {st : State} (hvars : st.env.vars.Named) (hinherited : st.inherited.Named) {name : Text}
  (h : '=' ∉ name.tail)
include hvars hinherited h

theorem inBlock?_programAssignments : Variables.inBlock? st.programAssignments name =
    if st.env.vars.entries = [] then st.inherited.get? name
    else (st.env.vars.get? name).or (st.inherited.collected.get? name) := by
  by_cases hempty : st.env.vars.entries = []
  · rw [programAssignments, if_pos hempty, if_pos hempty,
      Variables.inBlock?_assignments hinherited h]
  · rw [programAssignments, if_neg hempty, if_neg hempty,
      Variables.inBlock?_block (hinherited.collected.overlay hvars) h, Variables.get?_overlay]

/-- A program sees what the shell sees of a variable that the process was not started with twice, of
one that the shell has, and of any if the shell has none. -/
theorem inBlock?_programAssignments_iff :
    Variables.inBlock? st.programAssignments name = st.valueOf? name ↔
      st.env.vars.entries = [] ∨ (st.env.vars.get? name).isSome ∨
        st.inherited.collected.get? name = st.inherited.get? name := by
  rw [inBlock?_programAssignments hvars hinherited h, valueOf?, Environment.get?,
    Variables.inBlock?_assignments hinherited h]
  by_cases hempty : st.env.vars.entries = []
  · simp [hempty, Variables.get?]
  · cases hown : st.env.vars.get? name with
    | none => simp [hempty]
    | some v => simp [hempty]

end

end State

end CommandShell
