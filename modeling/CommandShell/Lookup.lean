import CommandShell.FileTree.Walk

/-!
# Looking up a command

A name of one component is looked for along the search path, the first regular file that someone may
execute; any other relative name is a path from the current directory, and an absolute one is
itself. The elements of the search path are separated by colons, and an empty one stands for the
directory that the process is in. The process may search every directory on the way; of the
permissions only those to execute a file count.
-/

namespace CommandShell

namespace Lookup

/-- The candidates for a single component, in the order in which they are tried. -/
def candidates (searchPath : Text) (name : Text) : List Path :=
  (Text.pieces ':' searchPath).map fun dir => Path.join dir name

def alongSearchPath (t : FileTree) (process : Place) (searchPath : Text) (name : Text) :
    Option Path :=
  (candidates searchPath name).find? (t.leadsToExecutable process)

def atPath (t : FileTree) (process : Place) (p : Path) : Option Path :=
  if t.leadsSomewhere process p then some p else none

/-- The file that a command name stands for, where `process` is the directory of the process and
`currentDir` the one against which names with several components are read. -/
def command? (t : FileTree) (process : Place) (searchPath : Text) (currentDir : Path)
    (name : Path) : Option Path :=
  if Path.isAbsolute name then atPath t process name
  else
    match Path.components name with
    | [] => none
    | [.normal x] => alongSearchPath t process searchPath x
    | _ => atPath t process (Path.join currentDir name)

end Lookup

end CommandShell
