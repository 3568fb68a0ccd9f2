import CommandShell.FileTree.Basic
import CommandShell.OsError
import CommandShell.Text.Utf8

/-!
# Walking along a path

A path is a sequence of steps from a place: stay, go up, or enter a name. A walk follows the links
that it meets on its way, forty at most, and lands in a directory, at an entry of one, or at a name
that a directory does not have yet. What the walk is for decides whether it also follows a link in
the last step, and what a separator at the end means.

The tree has no owners. A walk searches every directory, and whoever walks may read and write every
file; only whether a file may be executed is looked at. Entries that stand for the streams of the
process itself, such as `/dev/stdin`, are not among the nodes.

Main statement: where an absolute path leads does not depend on the start
(`locate_of_isAbsolute`).
-/

namespace CommandShell

inductive Step where
  | here
  | up
  | enter (name : Name)
  | slash
  deriving DecidableEq, Repr

namespace Step

/-- The step that a piece of a path asks for; an empty piece asks for none. -/
def ofPiece? (piece : Text) : Option Step :=
  if piece = [] then none
  else if piece = ['.'] then some .here
  else if piece = ['.', '.'] then some .up
  else some (.enter piece)

def ofPath (p : Path) : List Step :=
  (Text.pieces '/' p).filterMap ofPiece? ++ if p.getLast? = some '/' then [.slash] else []

end Step

inductive Purpose where
  /-- To find what a path leads to, through all links. -/
  | find
  /-- To open a file for writing that may have to be made. -/
  | create
  /-- To find or make an entry itself: a link in the last step is not followed. -/
  | entry
  deriving DecidableEq, Repr

inductive Landing where
  | directory (p : Place)
  /-- An entry that is no directory. -/
  | occupied (p : Place) (name : Name) (node : Node)
  /-- A name that the directory does not have. -/
  | vacant (p : Place) (name : Name)
  deriving DecidableEq, Repr

namespace Purpose

/-- No step is left that the purpose cares about. -/
def isAtEnd (u : Purpose) (rest : List Step) : Bool :=
  rest = [] || (u = .entry && rest = [.slash])

end Purpose

namespace FileTree

/-- The longest name that a directory takes, in bytes. -/
def nameLimit : Nat := 255

/-- A path of this many bytes is refused. -/
def pathLimit : Nat := 4096

def linkLimit : Nat := 40

def origin (start : Place) (p : Path) : Place := if Path.isAbsolute p then Place.root else start

/-- A walk that hands over to `follow` at each link. -/
def landFollowing (t : FileTree) (u : Purpose)
    (follow : Place → List Step → Except OsError Landing) :
    Place → List Step → Except OsError Landing
  | p, [] => .ok (.directory p)
  | p, .here :: rest => landFollowing t u follow p rest
  | p, .slash :: rest => landFollowing t u follow p rest
  | p, .up :: rest => landFollowing t u follow p.parent rest
  | p, .enter n :: rest =>
    if u = .create ∧ rest = [.slash] then .error .isDirectory
    else if p.lost ≠ 0 then .error .notFound
    else if nameLimit < Text.utf8Size n then .error .nameTooLong
    else
      match t.node? (n :: p.address) with
      | none => if u.isAtEnd rest then .ok (.vacant p n) else .error .notFound
      | some .directory => landFollowing t u follow (Place.ofAddress (n :: p.address)) rest
      | some (.link target) =>
        if u = .entry ∧ u.isAtEnd rest then .ok (.occupied p n (.link target))
        else follow (origin p target) (Step.ofPath target ++ rest)
      | some node => if u.isAtEnd rest then .ok (.occupied p n node) else .error .notDirectory

/-- A walk that follows so many links. -/
def land (t : FileTree) (u : Purpose) : Nat → Place → List Step → Except OsError Landing
  | 0 => landFollowing t u fun _ _ => .error .linkLoop
  | links + 1 => landFollowing t u (land t u links)

def locate (t : FileTree) (u : Purpose) (start : Place) (p : Path) : Except IoError Landing :=
  if '\x00' ∈ p then .error .nulInPath
  else if p = [] then .error (.os .notFound)
  else if pathLimit ≤ Text.utf8Size p then .error (.os .nameTooLong)
  else (land t u linkLimit (origin start p) (Step.ofPath p)).mapError .os

theorem origin_of_isAbsolute {p : Path} (h : Path.isAbsolute p = true) (start : Place) :
    origin start p = Place.root := by
  simp [origin, h]

theorem locate_of_isAbsolute {p : Path} (h : Path.isAbsolute p = true) (t : FileTree) (u : Purpose)
    (start start' : Place) : t.locate u start p = t.locate u start' p := by
  simp only [locate, origin_of_isAbsolute h]

/-- What stands at the end of a path, through all links. -/
def nodeAt? (t : FileTree) (start : Place) (p : Path) : Except IoError Node :=
  match t.locate .find start p with
  | .error e => .error e
  | .ok (.directory _) => .ok .directory
  | .ok (.occupied _ _ node) => .ok node
  | .ok (.vacant _ _) => .error (.os .notFound)

def leadsSomewhere (t : FileTree) (start : Place) (p : Path) : Bool :=
  match t.nodeAt? start p with
  | .ok _ => true
  | .error _ => false

def leadsToDirectory (t : FileTree) (start : Place) (p : Path) : Bool :=
  match t.nodeAt? start p with
  | .ok .directory => true
  | _ => false

/-- Someone may execute a file with these permissions. -/
def mayExecute (permissions : Nat) : Bool := permissions &&& 0o111 ≠ 0

/-- The path leads to a regular file that someone may execute. -/
def leadsToExecutable (t : FileTree) (start : Place) (p : Path) : Bool :=
  match t.nodeAt? start p with
  | .ok (.file permissions _) => mayExecute permissions
  | _ => false

/-- What stands at the end of a path whose own length is no obstacle, as it is resolved name by
name; a relative path starts from a place that has a path itself. -/
def resolve? (t : FileTree) (start : Place) (p : Path) : Option Landing :=
  if '\x00' ∈ p ∨ p = [] ∨ (origin start p).lost ≠ 0 then none
  else
    match land t .find linkLimit (origin start p) (Step.ofPath p) with
    | .error _ => none
    | .ok (.vacant _ _) => none
    | .ok landing => some landing

end FileTree

namespace Landing

/-- The path without links to what a walk has found, if it is there. -/
def path? : Landing → Option Path
  | .directory p => p.path?
  | .occupied p name _ => Place.path? ⟨name :: p.address, p.lost⟩
  | .vacant _ _ => none

/-- The same, unless it is too long for a path. -/
def canonicalPath? (landing : Landing) : Option Path :=
  landing.path?.filter (Text.utf8Size · < FileTree.pathLimit)

end Landing

end CommandShell
