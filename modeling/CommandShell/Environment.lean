import CommandShell.Path
import CommandShell.Variables

/-!
# The environment of the shell

What one line leaves to the next: the variables, the current directory and a request to exit; also
the names of the commands that are built in. The variables are a map: no name occurs twice. One that
the shell does not have is looked up among those that the process itself was started with, which
need not be a map.
-/

namespace CommandShell

/-- The status of a command: zero for success. -/
abbrev ExitCode := Int

structure Environment where
  vars : Variables
  currentDir : Path
  requestedExit : Option ExitCode
  builtinNames : List Text
  deriving DecidableEq, Repr

namespace Environment

/-- The value of a variable, where `process` holds those that the process was started with. -/
def get? (env : Environment) (process : Variables) (name : Text) : Option Text :=
  (env.vars.get? name).or (Variables.inBlock? process.assignments name)

def set (env : Environment) (name value : Text) : Environment :=
  { env with vars := env.vars.insert name value }

def unset (env : Environment) (name : Text) : Environment :=
  { env with vars := env.vars.erase name }

def pathVariable : Text := "PATH".toList

def homeVariable : Text := "HOME".toList

def searchPath (env : Environment) (process : Variables) : Text :=
  (env.get? process pathVariable).getD []

/-- The texts agree up to the case of ASCII letters. -/
def sameUpToCase (s t : Text) : Bool := s.map Char.toLower = t.map Char.toLower

/-- A built-in command has this name, in whatever case. -/
def namesBuiltin (env : Environment) (name : Text) : Bool :=
  env.builtinNames.any (sameUpToCase · name)

end Environment

end CommandShell
