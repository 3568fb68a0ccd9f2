import CommandShell.Script
import CommandShell.State

/-!
# Starting a program

A program is an arbitrary function from what it is started with to what it writes and how it ends.
To start one, the streams are flushed, the shell's variables and current directory are handed over,
the directory is entered, and the file is found from there: a path with a separator as it is, any
other along the search path that the program itself will have. So the file that was looked up before
is not looked up by the same rule again; where the two agree is a theorem and not a definition. A
script starts its interpreter, which can be a script again; any other text can at most be read by
the shell of the system.

Main statement: a file that holds a program starts this program with the arguments as they are
(`startAt_of_program`).
-/

namespace CommandShell

structure Invocation where
  argv : List Text
  /-- The assignments of its variables. -/
  environ : List Text
  /-- The path of its directory, if that is still there. -/
  workDir : Option Path
  input : Text
  deriving DecidableEq, Repr

structure Outcome where
  out : Text
  err : Text
  status : ExitStatus
  /-- It reads its input to the end. -/
  readsInput : Bool
  deriving DecidableEq, Repr

inductive Image where
  | program (id : Nat)
  /-- The shell of the system, with a text that it reads. -/
  | script (t : Text)
  deriving DecidableEq, Repr

structure Startup where
  image : Image
  argv : List Text
  deriving DecidableEq, Repr

structure Platform where
  run : Nat → Invocation → Outcome
  /-- What the shell of the system does with a text. -/
  runScript : Text → Invocation → Outcome
  /-- Where programs are looked for when there is no search path. -/
  defaultSearchPath : Text

structure ProgramCall where
  /-- The name as it was typed, which the program gets as its own. -/
  name : Text
  /-- The file that the name stands for. -/
  program : Path
  args : List Text
  deriving DecidableEq, Repr

namespace Platform

def usualSearchPath : Text := "/bin:/usr/bin".toList

def outcome (pf : Platform) : Image → Invocation → Outcome
  | .program id => pf.run id
  | .script t => pf.runScript t

end Platform

namespace ProgramCall

/-- The size of an argument or assignment, in bytes, that is refused. -/
def argumentLimit : Nat := 131072

/-- What a file that may be executed holds, as seen from a directory. A file that is open for
writing is refused. -/
def executableAt (t : FileTree) (dir : Place) (busy : List Address) (p : Path) :
    Except IoError Contents :=
  match t.locate .find dir p with
  | .error e => .error e
  | .ok (.vacant _ _) => .error (.os .notFound)
  | .ok (.occupied place n (.file permissions contents)) =>
    if !FileTree.mayExecute permissions then .error (.os .permissionDenied)
    else if busy.contains (n :: place.address) then .error (.os .fileBusy)
    else .ok contents
  | .ok _ => .error (.os .permissionDenied)

/-- What the file of an interpreter holds. The empty path is the directory itself. -/
def interpreterAt (t : FileTree) (dir : Place) (busy : List Address) (p : Path) :
    Except IoError Contents :=
  if p = [] then .error (.os .permissionDenied) else executableAt t dir busy p

/-- The number of scripts that may be passed through on the way to a program. -/
def scriptLimit : Nat := 5

/-- The program that starts for the contents of a file with a path. The interpreter of a script gets
its argument and the path of the script in front of the arguments of the script. -/
def throughScripts (t : FileTree) (dir : Place) (busy : List Address) :
    Nat → Path → List Text → Contents → Except IoError Startup
  | _, _, argv, .program id _ => .ok ⟨.program id, argv⟩
  | limit, p, argv, .text script =>
    match Script.interpreter? script with
    | none => .error (.os .notExecutable)
    | some i =>
      match interpreterAt t dir busy i.path with
      | .error e => .error e
      | .ok contents =>
        match limit with
        | 0 => .error (.os .linkLoop)
        | limit + 1 =>
          throughScripts t dir busy limit i.path
            (i.path :: i.argument.toList ++ p :: argv.tail) contents

def systemShell : Text := "/bin/sh".toList

/-- What starts for a file whose contents cannot be executed. -/
def withSystemShell (p : Path) (argv : List Text) : Contents → Except IoError Startup
  | .program _ _ => .error (.os .notExecutable)
  | .text script => .ok ⟨.script script, systemShell :: p :: argv.tail⟩

/-- What starts for a path. With `shell` a text that is no script goes to the shell of the
system. -/
def startAt (t : FileTree) (dir : Place) (busy : List Address) (environ argv : List Text)
    (shell : Bool) (p : Path) : Except IoError Startup :=
  match executableAt t dir busy p with
  | .error e => .error e
  | .ok contents =>
    if (argv ++ environ).any (argumentLimit ≤ Text.utf8Size ·) then .error (.os .argumentsTooLong)
    else
      match throughScripts t dir busy scriptLimit p argv contents with
      | .error (.os .notExecutable) =>
        if shell then withSystemShell p argv contents else .error (.os .notExecutable)
      | r => r

theorem startAt_of_program {t : FileTree} {dir : Place} {busy : List Address}
    {environ argv : List Text} {p : Path} {id : Nat} {appended : Text}
    (h : executableAt t dir busy p = .ok (.program id appended))
    (hfit : (argv ++ environ).any (argumentLimit ≤ Text.utf8Size ·) = false) (shell : Bool) :
    startAt t dir busy environ argv shell p = .ok ⟨.program id, argv⟩ := by
  simp [startAt, h, hfit, throughScripts]

/-- What starts for the first of some paths that can be started. A file that is missing or may not
be executed is passed over; if there is no better one, the latter is the cause that is reported. -/
def startAmong (start : Path → Except IoError Startup) (denied : Bool) (last : OsError) :
    List Path → Except IoError Startup
  | [] => .error (.os (if denied then .permissionDenied else last))
  | p :: ps =>
    match start p with
    | .ok s => .ok s
    | .error (.os .permissionDenied) => startAmong start true .permissionDenied ps
    | .error (.os .notFound) => startAmong start denied .notFound ps
    | .error (.os .notDirectory) => startAmong start denied .notDirectory ps
    | .error e => .error e

/-- The files that are tried for a name in the elements of a search path. An empty element stands
for the directory itself. One that is too long for a path counts as empty too, and not at all if it
is the last. -/
def candidatesIn (name : Text) : List Text → List Path
  | [] => []
  | dir :: dirs =>
    if FileTree.pathLimit ≤ Text.utf8Size dir then
      if dirs = [] then [] else name :: candidatesIn name dirs
    else (if dir = [] then name else dir ++ '/' :: name) :: candidatesIn name dirs

/-- The files that are tried for a name without a separator. -/
def searchCandidates (searchPath name : Text) : List Path :=
  candidatesIn name (Text.pieces ':' searchPath)

/-- What starts for a program as it was found. -/
def startup (pf : Platform) (t : FileTree) (dir : Place) (busy : List Address)
    (environ argv : List Text) (shell : Bool) (program : Path) : Except IoError Startup :=
  if '/' ∈ program then startAt t dir busy environ argv false program
  else if FileTree.nameLimit < Text.utf8Size program then .error (.os .nameTooLong)
  else
    startAmong (startAt t dir busy environ argv shell) false .notFound
      (searchCandidates
        ((Variables.inBlock? environ Environment.pathVariable).getD pf.defaultSearchPath) program)

def enter (t : FileTree) (start : Place) (p : Path) : Except IoError Place :=
  match t.locate .find start p with
  | .error e => .error e
  | .ok (.directory place) => .ok place
  | .ok (.occupied _ _ _) => .error (.os .notDirectory)
  | .ok (.vacant _ _) => .error (.os .notFound)

/-- What starts and what it is started with, where some files are open for writing besides those
that the streams lead to. A text that is no script goes to the shell of the system only if the shell
has a search path of its own. -/
def prepare (c : ProgramCall) (pf : Platform) (st : State) (streams : Streams)
    (held : List Address) : Except IoError (Image × Invocation) :=
  let argv := c.name :: c.args
  let environ := st.programAssignments
  if (c.program :: st.env.currentDir :: argv ++ environ).any (·.contains '\x00') then
    .error .nulInArgument
  else
    match enter st.tree st.workDir st.env.currentDir with
    | .error e => .error e
    | .ok dir =>
      match startup pf st.tree dir (streams.files ++ held) environ argv
        (st.env.vars.get? Environment.pathVariable).isSome c.program with
      | .error e => .error e
      | .ok s =>
        .ok (s.image, {
          argv := s.argv
          environ := environ
          workDir := dir.path?
          input := match streams.input with
            | .inherited => st.input.unread
            | .memory _ => [] })

def afterRun (st : State) (streams : Streams) (o : Outcome) : State :=
  let st := (st.afterProgramWrote streams.out o.out).afterProgramWrote streams.err o.err
  if o.readsInput ∧ streams.input = .inherited then
    { st with input := st.input.drained }
  else st

/-- Runs a program to its end, after the streams were flushed. -/
def run (c : ProgramCall) (pf : Platform) (held : List Address) (streams : Streams) (st : State) :
    State × Except LineError ExitCode :=
  match st.flush [streams.out, streams.err] with
  | .error e => (st, .error (.io e))
  | .ok () =>
    match c.prepare pf st streams held with
    | .error e => (st, .error (.spawn c.name e))
    | .ok (image, invocation) =>
      let o := pf.outcome image invocation
      ((afterRun st streams o).note (.finishedProgram c.program o.status), .ok o.status.code)

end ProgramCall

end CommandShell
