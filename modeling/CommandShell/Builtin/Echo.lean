import CommandShell.Action

/-!
# Writing arguments

`echo` writes its arguments with single spaces between them, and a newline unless they start with
`-n`. Every leading `-n` is dropped; all else is written as it is.
-/

namespace CommandShell

structure Echo where
  newline : Bool
  words : List Text
  deriving DecidableEq, Repr

namespace Echo

def name : Text := "echo".toList

def flag : Text := "-n".toList

def ofArguments (args : List Text) : Echo :=
  ⟨args.head? ≠ some flag, args.dropWhile (· = flag)⟩

/-- What is written, in pieces. -/
def pieces (e : Echo) : List Text :=
  Text.join [' '] e.words :: if e.newline then [['\n']] else []

def text (e : Echo) : Text := e.pieces.flatten

def action (e : Echo) : Action := .ofBody (Action.writeBody e.pieces)

end Echo

end CommandShell
