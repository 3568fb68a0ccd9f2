import CommandShell.FileTree.Edit
import CommandShell.LineError

/-!
# Opening the target of a redirection

The file name is read from the current directory. A directory is refused before anything is changed;
otherwise the directories above the target are made, and then the target is opened. The tree that is
given back holds what was made before a failure.

The process may search and change every directory and write every file, so nothing fails for want of
a permission. Entries that are the streams of the process itself, such as `/dev/stdout`, are outside
the tree.
-/

namespace CommandShell

namespace Redirection

def openTarget (t : FileTree) (process : Place) (currentDir : Path) (filename : Text)
    (mode : WriteMode) : FileTree × Except TargetError WriteTarget :=
  let p := Path.join currentDir filename
  if t.leadsToDirectory process p then (t, .error (.isDirectory p))
  else
    match Path.parent? p with
    | none => openFile t p
    | some parent =>
      match t.createDirectories process parent with
      | (t', .error cause) => (t', .error (.createDirectory parent cause))
      | (t', .ok ()) => openFile t' p
where
  openFile (t : FileTree) (p : Path) : FileTree × Except TargetError WriteTarget :=
    match t.openForWriting process p mode with
    | .error cause => (t, .error (.opening p cause))
    | .ok (t', w) => (t', .ok w)

end Redirection

end CommandShell
