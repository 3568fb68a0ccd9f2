import CommandShell.FileTree.Basic

/-!
# What changed between two trees

A report of the entries below a directory that are new, that differ in their kind, contents or
target, or that are gone. Permissions do not count.
-/

namespace CommandShell

namespace Node

/-- The node is the same but for its permissions. -/
def agrees : Node → Node → Bool
  | .file _ c, .file _ d => c = d
  | m, n => m = n

end Node

namespace FileTree

/-- The names that lead from the address `top` down to `a`, if `a` is below it. -/
def below? (top a : Address) : Option (List Name) :=
  if top <:+ a ∧ top ≠ a then some (a.take (a.length - top.length)).reverse else none

/-- The entries below an address, by their paths from there. -/
def entriesBelow (t : FileTree) (top : Address) : List (Path × Node) :=
  t.entries.filterMap fun e => (below? top e.1).map fun names => (Text.join ['/'] names, e.2)

/-- The entries below an address that differ between two trees, with what they are afterwards. -/
def changes (before after : FileTree) (top : Address) : List (Path × Option Node) :=
  let old := before.entriesBelow top
  let new := after.entriesBelow top
  (new.filter fun e => !((old.lookup e.1).any (·.agrees e.2))).map (fun e => (e.1, some e.2)) ++
    (old.filter fun e => (new.lookup e.1).isNone).map fun e => (e.1, none)

end FileTree

end CommandShell
