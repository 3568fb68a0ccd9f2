import CommandShell.Target

/-!
# Directories that are made on the way

A walk lands at an entry that the tree has, or at a name that it does not have. So a
directory is only ever made where nothing was, and making the directories above a
target adds directories to the tree and changes nothing else
(`addsDirectories_createDirectories`). This holds of every way in which opening a target
can fail (`addsDirectories_of_openTarget`).
-/

namespace CommandShell

namespace FileTree

/-- What a landing says about the tree. -/
def Shows (t : FileTree) : Landing → Prop
  | .directory _ => True
  | .occupied p n node => t.node? (n :: p.address) = some node
  | .vacant p n => t.node? (n :: p.address) = none

theorem shows_of_landFollowing {t : FileTree} {u : Purpose}
    {follow : Place → List Step → Except OsError Landing}
    (hfollow : ∀ p steps l, follow p steps = .ok l → t.Shows l) {p : Place} {steps : List Step}
    {l : Landing} (h : landFollowing t u follow p steps = .ok l) : t.Shows l := by
  induction steps generalizing p with
  | nil =>
      cases h
      exact trivial
  | cons s rest ih =>
      cases s with
      | here => exact ih h
      | slash => exact ih h
      | up => exact ih h
      | enter n =>
          rw [landFollowing] at h
          split at h
          · cases h
          split at h
          · cases h
          split at h
          · cases h
          split at h
          case h_1 hnode =>
              split at h
              · cases h
                exact hnode
              · cases h
          case h_2 => exact ih h
          case h_3 target hnode =>
              split at h
              · cases h
                exact hnode
              · exact hfollow _ _ _ h
          case h_4 node _ _ hnode =>
              split at h
              · cases h
                exact hnode
              · cases h

theorem shows_of_land {t : FileTree} {u : Purpose} {links : Nat} {p : Place} {steps : List Step}
    {l : Landing} (h : land t u links p steps = .ok l) : t.Shows l := by
  induction links generalizing p steps l with
  | zero =>
      refine shows_of_landFollowing ?_ h
      intro _ _ _ hfollow
      cases hfollow
  | succ links ih =>
      refine shows_of_landFollowing ?_ h
      intro _ _ _ hfollow
      exact ih hfollow

theorem shows_of_locate {t : FileTree} {u : Purpose} {start : Place} {p : Path} {l : Landing}
    (h : t.locate u start p = .ok l) : t.Shows l := by
  unfold locate at h
  split at h
  · cases h
  split at h
  · cases h
  split at h
  · cases h
  cases hland : land t u linkLimit (origin start p) (Step.ofPath p) with
  | error e =>
      rw [hland] at h
      cases h
  | ok l' =>
      rw [hland] at h
      cases h
      exact shows_of_land hland

/-- Each node stays, or is a directory where nothing was. -/
def AddsDirectories (t t' : FileTree) : Prop :=
  ∀ a, t'.node? a = t.node? a ∨ (t.node? a = none ∧ t'.node? a = some .directory)

theorem AddsDirectories.refl (t : FileTree) : t.AddsDirectories t := fun _ => .inl rfl

theorem AddsDirectories.trans {t t' t'' : FileTree} (h : t.AddsDirectories t')
    (h' : t'.AddsDirectories t'') : t.AddsDirectories t'' := by
  intro a
  obtain heq' | ⟨hnone, hdir⟩ := h' a
  · rw [heq']
    exact h a
  · obtain heq | ⟨_, hmade⟩ := h a
    · exact .inr ⟨heq ▸ hnone, hdir⟩
    · rw [hnone] at hmade
      cases hmade

theorem addsDirectories_set {t : FileTree} {n : Name} {a : Address}
    (h : t.node? (n :: a) = none) : t.AddsDirectories (t.set (n :: a) .directory) := by
  intro b
  by_cases hb : b = n :: a
  · subst hb
    exact .inr ⟨h, node?_set_self t _ (List.cons_ne_nil _ _)⟩
  · exact .inl (node?_set_of_ne t _ hb)

theorem addsDirectories_makeDirectory {t t' : FileTree} {start : Place} {p : Path}
    (h : t.makeDirectory start p = .ok t') : t.AddsDirectories t' := by
  unfold makeDirectory at h
  split at h
  case h_1 => cases h
  case h_2 hland =>
      cases h
      exact addsDirectories_set (shows_of_locate hland)
  case h_3 => cases h

theorem addsDirectories_makeDirectories {t : FileTree} {start : Place} {ps : List Path} :
    t.AddsDirectories (t.makeDirectories start ps).1 := by
  induction ps with
  | nil => exact .refl t
  | cons p above ih =>
      rw [makeDirectories]
      split
      · exact .refl t
      split
      case h_1 hmade => exact addsDirectories_makeDirectory hmade
      case h_2 =>
          split
          case h_1 habove =>
              rw [habove] at ih
              exact ih
          case h_2 habove =>
              rw [habove] at ih
              split
              case h_1 hmade => exact ih.trans (addsDirectories_makeDirectory hmade)
              case h_2 => exact ih
      case h_3 => exact .refl t

theorem addsDirectories_createDirectories (t : FileTree) (start : Place) (p : Path) :
    t.AddsDirectories (t.createDirectories start p).1 :=
  addsDirectories_makeDirectories

end FileTree

namespace Redirection

theorem openFile_error {t t' : FileTree} {process : Place} {mode : WriteMode} {p : Path}
    {e : TargetError} (h : openTarget.openFile process mode t p = (t', .error e)) : t' = t := by
  unfold openTarget.openFile at h
  split at h
  · cases h
    rfl
  · cases h

/-- A target that cannot be opened leaves no more than new directories. -/
theorem addsDirectories_of_openTarget {t t' : FileTree} {process : Place} {currentDir : Path}
    {filename : Text} {mode : WriteMode} {e : TargetError}
    (h : openTarget t process currentDir filename mode = (t', .error e)) :
    t.AddsDirectories t' := by
  unfold openTarget at h
  dsimp only at h
  split at h
  · cases h
    exact .refl t
  split at h
  · rw [openFile_error h]
    exact .refl t
  case h_2 parent _ =>
      have hadds := t.addsDirectories_createDirectories process parent
      split at h
      case h_1 hmade =>
          cases h
          rw [hmade] at hadds
          exact hadds
      case h_2 hmade =>
          rw [hmade] at hadds
          rw [openFile_error h]
          exact hadds

/-- A directory is refused before anything is made. -/
theorem eq_of_openTarget_isDirectory {t t' : FileTree} {process : Place} {currentDir : Path}
    {filename : Text} {mode : WriteMode} {p : Path}
    (h : openTarget t process currentDir filename mode = (t', .error (.isDirectory p))) :
    t' = t := by
  unfold openTarget at h
  dsimp only at h
  split at h
  · cases h
    rfl
  split at h
  · exact openFile_error h
  split at h
  · cases h
  case h_2 t'' hmade =>
      unfold openTarget.openFile at h
      split at h
      · cases h
      · cases h

end Redirection

end CommandShell
