import CommandShell.LineError
import CommandShell.Terminal

/-!
# Events worth a log line

What the shell notes while it runs, as data. How an event is written, and which ones are shown, is
decided where the log is read: see `Log.Line` and `Log.Filter`.
-/

namespace CommandShell

inductive ExitStatus where
  | exited (code : Nat)
  | signaled (signal : Nat)
  deriving DecidableEq, Repr

namespace ExitStatus

/-- The status that a shell reports for it. -/
def code : ExitStatus → ExitCode
  | .exited n => n
  | .signaled n => 128 + n

end ExitStatus

inductive Event where
  | tokenized (tokens : List Token)
  | ignoredWords (words : List Text)
  | dispatchedBuiltin (name : Text)
  | resolvedProgram (name : Text) (program : Path)
  | openedTarget (p : Path) (mode : WriteMode)
  | finishedProgram (program : Path) (status : ExitStatus)
  | lineFailed (e : LineError)
  /-- The terminal that lines are read on shows clusters in this way. -/
  | measuredTerminal (d : ClusterDisplay)
  /-- A line is read from something that is no terminal. -/
  | readingPlainInput
  /-- A line is read on a terminal that cannot be edited on. -/
  | plainTerminal
  deriving DecidableEq, Repr

/-- The event is about reading lines and not about running them. -/
def Event.concernsReading : Event → Bool
  | .measuredTerminal _ => true
  | .readingPlainInput => true
  | .plainTerminal => true
  | _ => false

end CommandShell
