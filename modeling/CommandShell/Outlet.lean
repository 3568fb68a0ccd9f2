import CommandShell.Operator
import CommandShell.OsError
import CommandShell.Text.Utf8

/-!
# Where the standard streams lead

The standard streams of the process can lead to something that takes nothing at all, such as a full
device or a pipe without a reader. (A stream that is closed is not of this kind: what is written to
it is lost, and nobody is told.) The standard error passes on what it gets as it gets it. The
standard output collects what it gets up to the end of a line; of what it could not pass on it keeps
as much as it has room for, and as long as it keeps something it fails whenever it is flushed.

A standard output that takes what it gets is flushed before a command ends and before a program
starts. So what is written to it counts as passed on at once, and there is nothing that it keeps.
-/

namespace CommandShell

inductive Outlet where
  | taking
  /-- Takes nothing, for this cause; what it has collected is kept. -/
  | refusing (cause : OsError) (kept : Text)
  deriving DecidableEq, Repr

namespace Outlet

def refusal? : Outlet → Option OsError
  | .taking => none
  | .refusing cause _ => some cause

/-- The cause for which the outlet cannot be flushed. -/
def flushRefusal? : Outlet → Option OsError
  | .taking => none
  | .refusing cause kept => if kept = [] then none else some cause

/-- The room for what is kept, in bytes. -/
def room : Nat := 1024

/-- What is kept with a text behind it, if there is room. A text that would fill the room by itself
is never kept. -/
def append? (kept t : Text) : Option Text :=
  if Text.utf8Size kept + Text.utf8Size t ≤ room ∧ Text.utf8Size t < room then some (kept ++ t)
  else none

/-- The lines of a text that come to their end. -/
def fullLines (t : Text) : Text := (t.reverse.dropWhile (· ≠ '\n')).reverse

/-- What is kept after an attempt to write a text, and whether that has succeeded. Lines are to be
passed on at their end, and what ends with one before anything comes behind it; any other text is
only collected. -/
def keep (kept t : Text) : Text × Bool :=
  if '\n' ∈ t then (if kept = [] then [] else (append? kept (fullLines t)).getD kept, false)
  else if kept.getLast? = some '\n' then (kept, false)
  else
    match append? kept t with
    | some kept' => (kept', true)
    | none => (kept, false)

/-- The same for texts that are written one after the other, up to the first that fails. -/
def keepAll : Text → List Text → Text × Bool
  | kept, [] => (kept, true)
  | kept, t :: ts =>
    match keep kept t with
    | (kept', true) => keepAll kept' ts
    | (kept', false) => (kept', false)

end Outlet

/-- Where the standard output and the standard error lead. -/
structure StandardStreams where
  out : Outlet
  /-- The cause for which the standard error takes nothing. -/
  errRefusal? : Option OsError
  deriving DecidableEq, Repr

namespace StandardStreams

/-- Both take what is written to them. -/
def taking : StandardStreams := ⟨.taking, none⟩

def refusal? (standard : StandardStreams) : Stream → Option OsError
  | .out => standard.out.refusal?
  | .err => standard.errRefusal?

end StandardStreams

end CommandShell
