import CommandShell.Text

/-!
# Paths as text

A path is kept exactly as it was written. Joining replaces the base by an absolute path and
otherwise adds the separator that is missing. The parent is found by dropping the last component,
where empty pieces and `.` pieces are no components, except for one `.` at the very start.
Main statements: the head and the pieces make up a path (`head_append_join_bodyPieces`), and vacuous
pieces at its end do not count for what is above it (`above_dropWhile`).
-/

namespace CommandShell

abbrev Path := Text

namespace Path

def isAbsolute : Path → Bool
  | '/' :: _ => true
  | _ => false

/-- The path `p` seen from the directory `base`. -/
def join (base p : Path) : Path :=
  if isAbsolute p then p
  else if base = [] ∨ base.getLast? = some '/' then base ++ p
  else base ++ '/' :: p

theorem join_of_isAbsolute {p : Path} (base : Path) (h : isAbsolute p = true) :
    join base p = p := by
  simp [join, h]

@[simp] theorem join_nil_left (p : Path) : join [] p = p := by
  by_cases h : isAbsolute p = true <;> simp [join, h]

theorem isAbsolute_join {base p : Path} (h : isAbsolute base = true) :
    isAbsolute (join base p) = true := by
  unfold join
  split
  · assumption
  · cases base with
    | nil => simp [isAbsolute] at h
    | cons c base =>
      simp only [isAbsolute] at h
      split at h
      · split <;> simp_all [isAbsolute]
      · simp at h

inductive Component where
  | root
  | here
  | up
  | normal (name : Text)
  deriving DecidableEq, Repr

/-- The part of a path in front of its first piece: the separator of an absolute path, or the dot
with which a relative one starts. -/
def head (p : Path) : Path :=
  match p with
  | '/' :: _ => ['/']
  | ['.'] => ['.']
  | '.' :: '/' :: _ => ['.']
  | _ => []

def bodyPieces (p : Path) : List Text := Text.pieces '/' (p.drop (head p).length)

/-- An empty piece or a dot names nothing. -/
def isVacuous (piece : Text) : Bool := piece = [] || piece = ['.']

def componentOf (piece : Text) : Component :=
  if piece = ['.', '.'] then .up else .normal piece

def components (p : Path) : List Component :=
  (match head p with
    | [] => []
    | c :: _ => [if c = '/' then .root else .here]) ++
  ((bodyPieces p).filter (!isVacuous ·)).map componentOf

/-- The paths above one with the given head, the nearest first, where its pieces are given from the
last to the first. Dropping a component drops the vacuous pieces in front of it too. -/
def above (head : Path) : List Text → List Path
  | [] => if head = ['.'] then [[]] else []
  | piece :: front =>
    if isVacuous piece then above head front
    else (head ++ Text.join ['/'] (front.dropWhile isVacuous).reverse) :: above head front

/-- A path and the paths above it, the nearest first. -/
def ancestors (p : Path) : List Path := p :: above (head p) (bodyPieces p).reverse

/-- The path without its last component; none if it has no component or is the root. -/
def parent? (p : Path) : Option Path := (ancestors p).tail.head?

theorem head_append_join_bodyPieces (p : Path) : head p ++ Text.join ['/'] (bodyPieces p) = p := by
  rw [bodyPieces, Text.join_pieces]
  unfold head
  split <;> simp

theorem above_cons_of_isVacuous {piece : Text} (h : isVacuous piece = true) (head : Path)
    (front : List Text) : above head (piece :: front) = above head front := by
  simp [above, h]

theorem above_cons_of_not_isVacuous {piece : Text} (h : isVacuous piece = false) (head : Path)
    (front : List Text) :
    above head (piece :: front) =
      (head ++ Text.join ['/'] (front.dropWhile isVacuous).reverse) :: above head front := by
  simp [above, h]

/-- Vacuous pieces at the end make no difference. -/
theorem above_dropWhile (head : Path) (pieces : List Text) :
    above head (pieces.dropWhile isVacuous) = above head pieces := by
  induction pieces with
  | nil => rfl
  | cons piece front ih =>
    cases h : isVacuous piece with
    | true => rw [List.dropWhile_cons_of_pos h, ih, above_cons_of_isVacuous h]
    | false => rw [List.dropWhile_cons_of_neg (by simp [h])]

end Path

end CommandShell
