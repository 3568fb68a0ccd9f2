import CommandShell.Path

/-!
# The file tree

A file tree assigns a node to each address, where an address lists the names from a node up to the
root, the innermost first: the entry `n` of the directory at `a` is at `n :: a`, and its directory
is again at the tail. The root is always a directory.

A place is a directory from which a relative path starts. It can outlive its directory: after a
removal it is some levels below the innermost directory that is left, where it has no entries and no
path any more, though `..` still leads up.

Main statements: `set` changes the node at one address (`node?_set_self`, `node?_set_of_ne`), and
`remove` takes away exactly a node and what is below it (`node?_remove`).
-/

namespace CommandShell

abbrev Name := Text

/-- The names from a node up to the root, the innermost first. -/
abbrev Address := List Name

/-- A file that swallows what is written to it, or has no room for it. -/
inductive Device where
  | null
  | full
  deriving DecidableEq, Repr

/-- What a regular file holds: text, or a program that can be started, with the text that was
appended to it. -/
inductive Contents where
  | text (t : Text)
  | program (id : Nat) (appended : Text)
  deriving DecidableEq, Repr

namespace Contents

def empty : Contents := .text []

def append : Contents → Text → Contents
  | .text t, s => .text (t ++ s)
  | .program id t, s => .program id (t ++ s)

@[simp] theorem append_nil (c : Contents) : c.append [] = c := by cases c <;> simp [append]

theorem append_append (c : Contents) (s t : Text) :
    (c.append s).append t = c.append (s ++ t) := by
  cases c <;> simp [append]

@[simp] theorem empty_append (t : Text) : empty.append t = .text t := by simp [empty, append]

end Contents

inductive Node where
  | directory
  | file (permissions : Nat) (contents : Contents)
  | link (target : Path)
  | device (d : Device)
  deriving DecidableEq, Repr

def Address.path : Address → Path
  | [] => ['/']
  | a => a.reverse.flatMap ('/' :: ·)

@[simp] theorem Address.path_nil : Address.path [] = ['/'] := rfl

theorem Address.path_cons (n : Name) (a : Address) :
    Address.path (n :: a) = a.reverse.flatMap ('/' :: ·) ++ '/' :: n := by
  simp [Address.path]

/-- A directory to start from, `lost` levels below the one at `address`, where the levels are
counted that have been removed. -/
structure Place where
  address : Address
  lost : Nat
  deriving DecidableEq, Repr

namespace Place

def root : Place := ⟨[], 0⟩

def ofAddress (a : Address) : Place := ⟨a, 0⟩

/-- The directory above; the root is above itself. -/
def parent (p : Place) : Place :=
  match p.lost with
  | 0 => ⟨p.address.tail, 0⟩
  | n + 1 => ⟨p.address, n⟩

def path? (p : Place) : Option Path :=
  match p.lost with
  | 0 => some p.address.path
  | _ + 1 => none

/-- Where the place is after the removal of the node at `a`. -/
def afterRemovalOf (p : Place) (a : Address) : Place :=
  if a <:+ p.address then ⟨a.tail, p.lost + (p.address.length - a.length + 1)⟩ else p

@[simp] theorem address_ofAddress (a : Address) : (Place.ofAddress a).address = a := rfl

@[simp] theorem lost_ofAddress (a : Address) : (Place.ofAddress a).lost = 0 := rfl

@[simp] theorem parent_ofAddress (a : Address) :
    (Place.ofAddress a).parent = Place.ofAddress a.tail := rfl

@[simp] theorem path?_ofAddress (a : Address) : (Place.ofAddress a).path? = some a.path := rfl

theorem path?_eq_some_iff {p : Place} {t : Path} :
    p.path? = some t ↔ ∃ a, p = Place.ofAddress a ∧ a.path = t := by
  rcases p with ⟨a, _ | n⟩
  · simp [path?, Place.ofAddress]
  · simp [path?, Place.ofAddress]

end Place

/-- A finite tree of nodes. An address occurs at most once. -/
structure FileTree where
  entries : List (Address × Node)
  deriving DecidableEq, Repr

namespace FileTree

def empty : FileTree := ⟨[]⟩

def node? (t : FileTree) : Address → Option Node
  | [] => some .directory
  | n :: a => t.entries.lookup (n :: a)

/-- The tree with the node at an address put in or replaced. -/
def set (t : FileTree) (a : Address) (n : Node) : FileTree :=
  ⟨(a, n) :: t.entries.filter (·.1 ≠ a)⟩

/-- The tree without the node at an address and all below it. -/
def remove (t : FileTree) (a : Address) : FileTree :=
  ⟨t.entries.filter fun e => ¬ a <:+ e.1⟩

@[simp] theorem node?_nil (t : FileTree) : t.node? [] = some .directory := rfl

theorem lookup_filter_of_pos {p : Address → Bool} {a : Address} (h : p a = true)
    (es : List (Address × Node)) : (es.filter fun e => p e.1).lookup a = es.lookup a := by
  induction es with
  | nil => rfl
  | cons e es ih =>
    rcases e with ⟨b, n⟩
    by_cases hb : a = b
    · subst hb; simp [h]
    · cases hp : p b <;> simp [List.lookup_cons, hp, beq_false_of_ne hb, ih]

theorem lookup_filter_of_neg {p : Address → Bool} {a : Address} (h : p a = false)
    (es : List (Address × Node)) : (es.filter fun e => p e.1).lookup a = none := by
  induction es with
  | nil => rfl
  | cons e es ih =>
    rcases e with ⟨b, n⟩
    by_cases hb : a = b
    · subst hb; simp [h, ih]
    · cases hp : p b <;> simp [List.lookup_cons, hp, beq_false_of_ne hb, ih]

@[simp] theorem node?_set_self {a : Address} (t : FileTree) (n : Node) (h : a ≠ []) :
    (t.set a n).node? a = some n := by
  cases a with
  | nil => exact absurd rfl h
  | cons m a => simp [node?, set]

theorem node?_set_of_ne {a b : Address} (t : FileTree) (n : Node) (h : b ≠ a) :
    (t.set a n).node? b = t.node? b := by
  cases b with
  | nil => rfl
  | cons m b =>
    simp only [node?, set, List.lookup_cons, beq_false_of_ne h]
    exact lookup_filter_of_pos (p := fun x => decide (x ≠ a)) (by simp [h]) _

theorem node?_remove {a b : Address} (t : FileTree) (h : b ≠ []) :
    (t.remove a).node? b = if a <:+ b then none else t.node? b := by
  cases b with
  | nil => exact absurd rfl h
  | cons m b =>
    simp only [node?, remove]
    split
    · rename_i hs
      exact lookup_filter_of_neg (p := fun x => decide (¬ a <:+ x)) (by simp [hs]) _
    · rename_i hs
      exact lookup_filter_of_pos (p := fun x => decide (¬ a <:+ x)) (by simp [hs]) _

end FileTree

end CommandShell
