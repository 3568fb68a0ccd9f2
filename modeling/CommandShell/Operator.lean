import CommandShell.Text

/-!
# Redirection operators

An operator names the output stream that it diverts, if it does so at all, and says whether the
earlier contents of the target are dropped or kept. The six operators are `>`, `>>`, `1>`, `1>>`,
`2>` and `2>>`; one without a digit diverts the standard output. Different operators are written
differently (`text_injective`).
-/

namespace CommandShell

inductive Stream where
  | out
  | err
  deriving DecidableEq, Repr

/-- What happens to the earlier contents of a redirection target. -/
inductive WriteMode where
  | truncate
  | append
  deriving DecidableEq, Repr

/-- A redirection operator, kept as it was written. -/
structure Operator where
  /-- The stream that the operator names by its digit. -/
  selector : Option Stream
  mode : WriteMode
  deriving DecidableEq, Repr

def Stream.digit : Stream → Char
  | .out => '1'
  | .err => '2'

def WriteMode.angles : WriteMode → Text
  | .truncate => ['>']
  | .append => ['>', '>']

namespace Operator

def text (o : Operator) : Text := (o.selector.map Stream.digit).toList ++ o.mode.angles

def stream (o : Operator) : Stream := o.selector.getD .out

theorem text_injective {o o' : Operator} (h : o.text = o'.text) : o = o' := by
  rcases o with ⟨_ | ⟨⟨⟩⟩, ⟨⟩⟩ <;> rcases o' with ⟨_ | ⟨⟨⟩⟩, ⟨⟩⟩ <;>
    first
      | rfl
      | exact absurd h (by decide)

theorem text_ne_nil (o : Operator) : o.text ≠ [] := by
  rcases o with ⟨_ | ⟨⟨⟩⟩, ⟨⟩⟩ <;> decide

end Operator

end CommandShell
