import CommandShell.FileTree.Walk
import CommandShell.Operator

/-!
# Changing the file tree

Making one directory, making all that are missing on a path, opening a file for writing, appending
to it, and putting in or taking away entries by their paths.

An open file is known by its address, a device by itself; both take text at their end. Main
statement: appending changes the contents at one address and nothing else
(`node?_appendTo_of_ne`, `node?_appendTo_self`).
-/

namespace CommandShell

inductive WriteTarget where
  | file (a : Address)
  | device (d : Device)
  deriving DecidableEq, Repr

namespace FileTree

def makeDirectory (t : FileTree) (start : Place) (p : Path) : Except IoError FileTree :=
  match t.locate .entry start p with
  | .error e => .error e
  | .ok (.vacant place n) => .ok (t.set (n :: place.address) .directory)
  | .ok _ => .error (.os .alreadyExists)

/-- Makes the first directory of a list of paths, of which each is the parent of the one before. If
that fails because its parent is missing, the rest of the list is made first. A directory that is
there already is as good as a new one. -/
def makeDirectories (t : FileTree) (start : Place) : List Path → FileTree × Except IoError Unit
  | [] => (t, .ok ())
  | p :: above =>
    if p = [] then (t, .ok ())
    else
      match t.makeDirectory start p with
      | .ok t' => (t', .ok ())
      | .error (.os .notFound) =>
        match makeDirectories t start above with
        | (t', .error e) => (t', .error e)
        | (t', .ok ()) =>
          match t'.makeDirectory start p with
          | .ok t'' => (t'', .ok ())
          | .error e => (t', if t'.leadsToDirectory start p then .ok () else .error e)
      | .error e => (t, if t.leadsToDirectory start p then .ok () else .error e)

/-- Makes a directory and all that are missing above it. -/
def createDirectories (t : FileTree) (start : Place) (p : Path) :
    FileTree × Except IoError Unit :=
  t.makeDirectories start (Path.ancestors p)

def newPermissions : Nat := 0o644

/-- Opens the file that a path leads to, and makes it if it is not there. -/
def openForWriting (t : FileTree) (start : Place) (p : Path) (mode : WriteMode) :
    Except IoError (FileTree × WriteTarget) :=
  match t.locate .create start p with
  | .error e => .error e
  | .ok (.vacant place n) =>
    .ok (t.set (n :: place.address) (.file newPermissions .empty), .file (n :: place.address))
  | .ok (.occupied place n (.file permissions _)) =>
    match mode with
    | .truncate =>
      .ok (t.set (n :: place.address) (.file permissions .empty), .file (n :: place.address))
    | .append => .ok (t, .file (n :: place.address))
  | .ok (.occupied _ _ (.device d)) => .ok (t, .device d)
  | .ok (.occupied _ _ (.link _)) => .error (.os .linkLoop)
  | .ok (.occupied _ _ .directory) => .error (.os .isDirectory)
  | .ok (.directory _) => .error (.os .isDirectory)

/-- The tree with a text added to the end of a regular file. -/
def appendTo (t : FileTree) (a : Address) (s : Text) : FileTree :=
  match t.node? a with
  | some (.file permissions contents) => t.set a (.file permissions (contents.append s))
  | _ => t

theorem node?_appendTo_of_ne {a b : Address} (t : FileTree) (s : Text) (h : b ≠ a) :
    (t.appendTo a s).node? b = t.node? b := by
  unfold appendTo
  split
  · exact node?_set_of_ne t _ h
  · rfl

theorem node?_appendTo_self {t : FileTree} {a : Address} {permissions : Nat} {c : Contents}
    (h : t.node? a = some (.file permissions c)) (s : Text) :
    (t.appendTo a s).node? a = some (.file permissions (c.append s)) := by
  have ha : a ≠ [] := by
    rintro rfl
    simp at h
  simp [appendTo, h, ha]

/-- The tree with the file that a path leads to, made or overwritten, together with the directories
above it. -/
def putFile (t : FileTree) (start : Place) (p : Path) (permissions : Nat) (c : Contents) :
    FileTree :=
  let t' := (t.createDirectories start ((Path.parent? p).getD [])).1
  match t'.openForWriting start p .truncate with
  | .ok (t'', .file a) => t''.set a (.file permissions c)
  | _ => t'

/-- The tree with a link in a place that was free, together with the directories above it. -/
def putLink (t : FileTree) (start : Place) (p : Path) (target : Path) : FileTree :=
  let t' := (t.createDirectories start ((Path.parent? p).getD [])).1
  match t'.locate .entry start p with
  | .ok (.vacant place n) => t'.set (n :: place.address) (.link target)
  | _ => t'

/-- The address of the entry that a path names, a link itself included. -/
def entryAt? (t : FileTree) (start : Place) (p : Path) : Option Address :=
  match t.locate .entry start p with
  | .ok (.directory place) => if place.lost = 0 then some place.address else none
  | .ok (.occupied place n _) => some (n :: place.address)
  | _ => none

end FileTree

end CommandShell
