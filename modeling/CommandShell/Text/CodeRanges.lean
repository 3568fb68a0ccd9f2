import CommandShell.Text

/-!
# Sets of characters

A set of characters is given by ranges of code points, both ends included.
-/

namespace CommandShell

namespace Text

abbrev CodeRanges := List (Nat × Nat)

def CodeRanges.contains (r : CodeRanges) (c : Char) : Bool :=
  r.any fun e => e.1 ≤ c.toNat && c.toNat ≤ e.2

end Text

end CommandShell
