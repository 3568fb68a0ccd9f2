import CommandShell.Launch
import CommandShell.Probe

/-!
# The command line

Runs the shell on a file tree that is kept in memory, with the standard input as its input.
-/

open CommandShell

/-- Directories and devices that are always there. -/
def initialTree : FileTree :=
  ⟨[(["null".toList, "dev".toList], .device .null), (["full".toList, "dev".toList], .device .full),
    (["dev".toList], .directory), (["bin".toList], .directory),
    (["probe".toList, "bin".toList], .file 0o755 (.program 0 []))]⟩

/-- The variables of the process that the shell looks at. -/
def knownVariables : List String := ["HOME", "PATH", "TERM", "TERM_PROGRAM", "LINESH_LOG"]

def variablesOfProcess : IO Variables := do
  let values ← knownVariables.filterMapM fun name => do
    return (← IO.getEnv name).map fun value => (name.toList, value.toList)
  return .ofList values

def main (args : List String) : IO UInt32 := do
  let input ← (← IO.getStdin).readToEnd
  let ending := Launch.run Probe.platform (Text.ofNat (← IO.monoMsNow)) {
    args := args.map String.toList
    input := input.toList
    vars := ← variablesOfProcess
    tree := initialTree
    workDir := .root }
  IO.print (String.ofList ending.out)
  IO.eprint (String.ofList ending.err)
  return UInt32.ofNat ending.status
