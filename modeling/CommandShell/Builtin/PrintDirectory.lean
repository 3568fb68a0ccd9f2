import CommandShell.Action
import CommandShell.Arguments

/-!
# Showing the current directory

`pwd` writes the path of the current directory as the shell knows it.
-/

namespace CommandShell

namespace PrintDirectory

def name : Text := "pwd".toList

def grammar : ArgumentGrammar where
  options := []
  positionals := .none
  help := Text.ofLines [
    "Usage: pwd",
    "",
    "Print the current working directory to standard output.",
    "",
    "Options:",
    "  --help, help      display usage information"]

def action : Action :=
  .ofBody fun sink st => Action.writeBody [st.env.currentDir, ['\n']] sink st

end PrintDirectory

end CommandShell
