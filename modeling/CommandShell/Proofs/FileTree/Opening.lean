import CommandShell.Proofs.FileTree.Growth
import CommandShell.Proofs.FileTree.Shape

/-!
# What opening a target leaves

A target is opened behind the directories that were made for it. The file is new or was
there before, so opening it changes the node at its address and puts directories where
nothing was (`Redirection.opens_of_openTarget`). In particular no directory ever goes
away (`Redirection.keepsDirectories_openTarget`).
-/

namespace CommandShell

/-- What the file at an address holds right after it was opened in this mode. -/
def WriteMode.openedContents (m : WriteMode) (t : FileTree) (a : Address) : Contents :=
  match m, t.node? a with
  | .append, some (.file _ c) => c
  | _, _ => .empty

namespace WriteMode

@[simp] theorem openedContents_truncate (t : FileTree) (a : Address) :
    openedContents .truncate t a = .empty := rfl

theorem openedContents_of_none {t : FileTree} {a : Address} (h : t.node? a = none)
    (m : WriteMode) : m.openedContents t a = .empty := by
  simp [openedContents, h]

theorem openedContents_append {t : FileTree} {a : Address} {permissions : Nat} {c : Contents}
    (h : t.node? a = some (.file permissions c)) : openedContents .append t a = c := by
  simp [openedContents, h]

theorem openedContents_congr {t t' : FileTree} {a : Address} (h : t.node? a = t'.node? a)
    (m : WriteMode) : m.openedContents t a = m.openedContents t' a := by
  simp only [openedContents, h]

end WriteMode

namespace FileTree

/-- The file at `a` has come to hold `c`, and all else is as it was but for new
directories. -/
structure Opens (t t' : FileTree) (a : Address) (c : Contents) : Prop where
  before : t.node? a = none ∨ ∃ permissions c', t.node? a = some (.file permissions c')
  after : ∃ permissions, t'.node? a = some (.file permissions c)
  elsewhere : ∀ b, b ≠ a →
    t'.node? b = t.node? b ∨ (t.node? b = none ∧ t'.node? b = some .directory)

/-- The file itself is all that its opening touches. -/
theorem node?_of_openForWriting_of_ne {t t' : FileTree} {start : Place} {p : Path} {m : WriteMode}
    {a b : Address} (h : t.openForWriting start p m = .ok (t', .file a)) (hb : b ≠ a) :
    t'.node? b = t.node? b := by
  unfold openForWriting at h
  split at h
  case h_1 => cases h
  case h_2 =>
      cases h
      exact node?_set_of_ne t _ hb
  case h_3 =>
      cases m with
      | truncate =>
          cases h
          exact node?_set_of_ne t _ hb
      | append =>
          cases h
          rfl
  all_goals cases h

theorem opens_of_openForWriting {t t' : FileTree} {start : Place} {p : Path} {m : WriteMode}
    {a : Address} (h : t.openForWriting start p m = .ok (t', .file a)) :
    t.Opens t' a (m.openedContents t a) := by
  have helse : ∀ b, b ≠ a → t'.node? b = t.node? b := fun _ => node?_of_openForWriting_of_ne h
  unfold openForWriting at h
  split at h
  case h_1 => cases h
  case h_2 place n hland =>
      -- The file is new.
      cases h
      have hnone : t.node? (n :: place.address) = none := shows_of_locate hland
      refine ⟨.inl hnone, ⟨newPermissions, ?_⟩, fun b hb => .inl (helse b hb)⟩
      rw [node?_set_self t _ (List.cons_ne_nil _ _), WriteMode.openedContents_of_none hnone]
  case h_3 place n permissions c hland =>
      have hfile : t.node? (n :: place.address) = some (.file permissions c) :=
        shows_of_locate hland
      cases m with
      | truncate =>
          cases h
          refine ⟨.inr ⟨_, _, hfile⟩, ⟨permissions, ?_⟩, fun b hb => .inl (helse b hb)⟩
          rw [node?_set_self t _ (List.cons_ne_nil _ _), WriteMode.openedContents_truncate]
      | append =>
          cases h
          refine ⟨.inr ⟨_, _, hfile⟩, ⟨permissions, ?_⟩, fun b hb => .inl (helse b hb)⟩
          rw [WriteMode.openedContents_append hfile, hfile]
  all_goals cases h

theorem eq_of_openForWriting_device {t t' : FileTree} {start : Place} {p : Path} {m : WriteMode}
    {d : Device} (h : t.openForWriting start p m = .ok (t', .device d)) : t' = t := by
  unfold openForWriting at h
  split at h
  case h_3 => cases m <;> cases h
  all_goals
      cases h
  rfl

theorem AddsDirectories.opens {t t' t'' : FileTree} {a : Address} {m : WriteMode}
    (h : t.AddsDirectories t') (h' : t'.Opens t'' a (m.openedContents t' a)) :
    t.Opens t'' a (m.openedContents t a) := by
  -- Where the file is, no directory was made.
  have hsame : t'.node? a = t.node? a := by
    obtain heq | ⟨_, hdir⟩ := h a
    · exact heq
    · obtain hnone | ⟨_, _, hfile⟩ := h'.before
      · rw [hnone] at hdir
        cases hdir
      · rw [hfile] at hdir
        cases hdir
  refine ⟨hsame ▸ h'.before, ?_, ?_⟩
  · rw [WriteMode.openedContents_congr hsame.symm]
    exact h'.after
  · intro b hb
    obtain heq | ⟨hnone, hdir⟩ := h'.elsewhere b hb
    · rw [heq]
      exact h b
    · obtain heq | ⟨_, hdir'⟩ := h b
      · exact .inr ⟨heq ▸ hnone, hdir⟩
      · rw [hnone] at hdir'
        cases hdir'

/-- The directories stay. -/
def KeepsDirectories (t t' : FileTree) : Prop :=
  ∀ a, t.node? a = some .directory → t'.node? a = some .directory

theorem KeepsDirectories.refl (t : FileTree) : t.KeepsDirectories t := fun _ h => h

theorem KeepsDirectories.trans {t t' t'' : FileTree} (h : t.KeepsDirectories t')
    (h' : t'.KeepsDirectories t'') : t.KeepsDirectories t'' := fun a ha => h' a (h a ha)

theorem AddsDirectories.keepsDirectories {t t' : FileTree} (h : t.AddsDirectories t') :
    t.KeepsDirectories t' := by
  intro a ha
  obtain heq | ⟨hnone, _⟩ := h a
  · rw [heq, ha]
  · rw [ha] at hnone
    cases hnone

theorem SameShape.keepsDirectories {t t' : FileTree} (h : t.SameShape t') :
    t.KeepsDirectories t' := by
  intro a ha
  obtain heq | ⟨_, _, _, hfile, _⟩ := h a
  · rw [heq, ha]
  · rw [ha] at hfile
    cases hfile

theorem Opens.keepsDirectories {t t' : FileTree} {a : Address} {c : Contents}
    (h : t.Opens t' a c) : t.KeepsDirectories t' := by
  intro b hb
  have hne : b ≠ a := by
    rintro rfl
    obtain hnone | ⟨_, _, hfile⟩ := h.before
    · rw [hb] at hnone
      cases hnone
    · rw [hb] at hfile
      cases hfile
  obtain heq | ⟨hnone, _⟩ := h.elsewhere b hne
  · rw [heq, hb]
  · rw [hb] at hnone
    cases hnone

end FileTree

namespace Redirection

theorem openForWriting_of_openFile {t t' : FileTree} {process : Place} {mode : WriteMode}
    {p : Path} {w : WriteTarget} (h : openTarget.openFile process mode t p = (t', .ok w)) :
    t.openForWriting process p mode = .ok (t', w) := by
  unfold openTarget.openFile at h
  split at h
  · cases h
  case h_2 hopen =>
      cases h
      exact hopen

/-- A target is opened in a tree that has the directories above it. -/
theorem exists_of_openTarget {t t' : FileTree} {process : Place} {currentDir : Path}
    {filename : Text} {mode : WriteMode} {w : WriteTarget}
    (h : openTarget t process currentDir filename mode = (t', .ok w)) :
    ∃ t₁, t.AddsDirectories t₁ ∧
      t₁.openForWriting process (Path.join currentDir filename) mode = .ok (t', w) := by
  unfold openTarget at h
  dsimp only at h
  split at h
  · cases h
  split at h
  · exact ⟨t, .refl t, openForWriting_of_openFile h⟩
  case h_2 parent _ =>
      have hadds := t.addsDirectories_createDirectories process parent
      split at h
      · cases h
      case h_2 hmade =>
          rw [hmade] at hadds
          exact ⟨_, hadds, openForWriting_of_openFile h⟩

theorem opens_of_openTarget {t t' : FileTree} {process : Place} {currentDir : Path}
    {filename : Text} {mode : WriteMode} {a : Address}
    (h : openTarget t process currentDir filename mode = (t', .ok (.file a))) :
    t.Opens t' a (mode.openedContents t a) := by
  obtain ⟨t₁, hadds, hopen⟩ := exists_of_openTarget h
  exact hadds.opens (FileTree.opens_of_openForWriting hopen)

theorem keepsDirectories_openTarget (t : FileTree) (process : Place) (currentDir : Path)
    (filename : Text) (mode : WriteMode) :
    t.KeepsDirectories (openTarget t process currentDir filename mode).1 := by
  rcases h : openTarget t process currentDir filename mode with ⟨t', e | a | d⟩
  · exact (addsDirectories_of_openTarget h).keepsDirectories
  · exact (opens_of_openTarget h).keepsDirectories
  · obtain ⟨t₁, hadds, hopen⟩ := exists_of_openTarget h
    obtain rfl := FileTree.eq_of_openForWriting_device hopen
    exact hadds.keepsDirectories

end Redirection

end CommandShell
