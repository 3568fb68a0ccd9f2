import CommandShell.Environment

/-!
# The terminal

What the variables of the process tell about the terminal: whether lines can be edited on it, and
how it shows a cluster of characters.
-/

namespace CommandShell

/-- How a terminal shows a cluster of characters. -/
inductive ClusterDisplay where
  /-- As one sign. -/
  | whole
  /-- As one sign, unless a joiner holds it together. -/
  | withoutJoiners
  /-- Each character for itself. -/
  | perCharacter
  deriving DecidableEq, Repr

namespace Terminal

def kindVariable : Text := "TERM".toList

def programVariable : Text := "TERM_PROGRAM".toList

/-- Kinds of terminals on which lines cannot be edited, in lower case. -/
def plainKinds : List Text := ["dumb".toList, "cons25".toList, "emacs".toList]

/-- The terminal is one on which lines cannot be edited. -/
def isPlain (process : Variables) : Bool :=
  match process.get? kindVariable with
  | none => false
  | some kind => plainKinds.any (Environment.sameUpToCase · kind)

def wholeClusterPrograms : List Text :=
  ["Apple_Terminal".toList, "iTerm.app".toList, "WezTerm".toList]

def joinerlessKind : Text := "xterm-kitty".toList

/-- How the terminal shows clusters. The program decides if it is named, else the kind. -/
def clusterDisplay (process : Variables) : ClusterDisplay :=
  match process.get? programVariable with
  | some program => if wholeClusterPrograms.contains program then .whole else .perCharacter
  | none =>
    if process.get? kindVariable = some joinerlessKind then .withoutJoiners else .perCharacter

end Terminal

end CommandShell
