import CommandShell.Command
import CommandShell.Environment
import CommandShell.OsError
import CommandShell.Token.Lexer

/-!
# What stops a line

The failures that keep a line from running to its end, each with its diagnostic and the status that
it leaves. None of them ends the shell.
-/

namespace CommandShell

inductive TargetError where
  | isDirectory (p : Path)
  | createDirectory (p : Path) (cause : IoError)
  | opening (p : Path) (cause : IoError)
  deriving DecidableEq, Repr

inductive LineError where
  | lexing (e : LexError)
  | parsing (e : ParseError)
  | redirect (e : TargetError)
  | commandNotFound (name : Text)
  | spawn (name : Text) (cause : IoError)
  /-- A command could not write what it had to. -/
  | io (cause : IoError)
  deriving DecidableEq, Repr

namespace TargetError

def message : TargetError → Text
  | .isDirectory p => p ++ ": cannot write to directory".toList
  | .createDirectory p cause => p ++ ": cannot create directory: ".toList ++ cause.message
  | .opening p cause => p ++ ": ".toList ++ cause.message

end TargetError

namespace LineError

def message : LineError → Text
  | .lexing e => e.message
  | .parsing e => e.message
  | .redirect e => e.message
  | .commandNotFound name => name ++ ": command not found".toList
  | .spawn name cause => name ++ ": ".toList ++ cause.message
  | .io cause => cause.message

def exitCode : LineError → ExitCode
  | .lexing _ => 2
  | .parsing _ => 2
  | .commandNotFound _ => 127
  | .spawn _ _ => 126
  | .redirect _ => 1
  | .io _ => 1

end LineError

end CommandShell
