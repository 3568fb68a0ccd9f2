import CommandShell.Action
import CommandShell.Arguments

/-!
# Changing the current directory

`cd` goes to the directory that its target names, seen from the current one: the home directory for
no target, an empty one or `~`, and for `~/` a path from there. The process moves to the directory
itself, and then its path without links becomes the current directory, so that both name the same
place. The system can refuse the first step, and then the second is not taken.
-/

namespace CommandShell

structure ChangeDirectory where
  target : Option Text
  deriving DecidableEq, Repr

namespace ChangeDirectory

def name : Text := "cd".toList

def grammar : ArgumentGrammar where
  options := []
  positionals := .atMostOne
  help := Text.ofLines [
    "Usage: cd [--] [<target>]",
    "",
    "Change the current working directory. If no target is provided, changes to the directory " ++
      "specified by the HOME environment variable.",
    "",
    "Positional Arguments:",
    "  target            directory to switch to; absolute, relative, or starting with",
    "                    `~`. Defaults to $HOME when omitted.",
    "",
    "Options:",
    "  --help, help      display usage information"]

inductive Failure where
  | homeNotSet
  | notDirectory (shown : Text)
  | notFound (shown : Text)
  /-- The system does not let the process move to the directory with this path. -/
  | refused (p : Path) (cause : OsError)
  deriving DecidableEq, Repr

def Failure.message : Failure → Text
  | .homeNotSet => "cd: HOME not set".toList
  | .notDirectory shown => "cd: ".toList ++ shown ++ ": Not a directory".toList
  | .notFound shown => "cd: ".toList ++ shown ++ ": No such file or directory".toList
  | .refused p cause =>
    "cd: can't chdir to ".toList ++ p ++ ": ".toList ++ (IoError.os cause).message

def shown (c : ChangeDirectory) : Text := c.target.getD ['~']

/-- The path to go to, where `home` is the home directory. -/
def destination? (target : Option Text) (home : Option Path) (currentDir : Path) : Option Path :=
  let path :=
    match target with
    | none => home
    | some [] => home
    | some ['~'] => home
    | some ('~' :: '/' :: rest) => home.map (Path.join · rest)
    | some t => some t
  path.map (Path.join currentDir)

/-- The directory that a path leads to, with its path. -/
def directoryAt (t : FileTree) (start : Place) (shown : Text) (p : Path) :
    Except Failure (Place × Path) :=
  match t.resolve? start p with
  | none => .error (.notFound shown)
  | some landing =>
    match landing.canonicalPath? with
    | none => .error (.notFound shown)
    | some path =>
      match landing with
      | .directory place =>
        if t.leadsToDirectory start path then .ok (place, path) else .error (.notDirectory shown)
      | _ => .error (.notDirectory shown)

/-- The directory that the target names, with its path. -/
def goal (c : ChangeDirectory) (st : State) : Except Failure (Place × Path) :=
  match destination? c.target (st.valueOf? Environment.homeVariable) st.env.currentDir with
  | none => .error .homeNotSet
  | some p => directoryAt st.tree st.workDir c.shown p

/-- Moves to the directory that the target names: the process first, then the shell. -/
def move (c : ChangeDirectory) (st : State) : State × Except Failure Unit :=
  match c.goal st with
  | .error e => (st, .error e)
  | .ok (place, path) =>
    match st.enter place with
    | (st', .error cause) => (st', .error (.refused path cause))
    | (st', .ok ()) => ({ st' with env := { st'.env with currentDir := path } }, .ok ())

def action (c : ChangeDirectory) : Action :=
  .ofBody fun _ st =>
    match c.move st with
    | (st', .ok ()) => (st', .ok 0)
    | (st', .error e) => (st', .error e.message)

end ChangeDirectory

end CommandShell
