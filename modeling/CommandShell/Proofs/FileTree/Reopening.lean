import CommandShell.Proofs.FileTree.Rebase

/-!
# Opening a target again

A walk that lands at a free name or at a file takes the same way in a later tree, where
only files have changed and something stands at that name (`landFollowing_of_isAt`). So a
target that was opened as a regular file stands behind its path (`FileTree.Stands`): the
path leads to the file, and its parent to a directory. Then it can be opened again, in
either mode, as the same file, and nothing has to be made for it
(`Redirection.OpensFile.of_stands`). Writing to files changes nothing of that.
-/

namespace CommandShell

/-- The walk ended at this name of this directory, which is free or that of a file. -/
def Landing.IsAt (l : Landing) (q : Place) (m : Name) : Prop :=
  l = .vacant q m ∨ ∃ permissions c, l = .occupied q m (.file permissions c)

namespace FileTree

section

variable {t t' : FileTree} {u u' : Purpose} {q : Place} {m : Name} {l' : Landing}
variable (hkeeps : t.KeepsWays t') (hentry : u' ≠ .entry) (hcreate : u' = .create → u = .create)
  (hend : q.lost = 0 → Text.utf8Size m ≤ nameLimit → ∀ follow rest, u.isAtEnd rest = true →
    landFollowing t' u' follow q (.enter m :: rest) = .ok l')
include hkeeps hentry hcreate hend

theorem landFollowing_of_isAt {follow follow' : Place → List Step → Except OsError Landing}
    (hfollow : ∀ p steps l, follow p steps = .ok l → l.IsAt q m →
      follow' p steps = .ok l')
    {p : Place} {steps : List Step} {l : Landing} (h : landFollowing t u follow p steps = .ok l)
    (hl : l.IsAt q m) : landFollowing t' u' follow' p steps = .ok l' := by
  induction steps generalizing p with
  | nil =>
      cases h
      obtain hvacant | ⟨permissions, c, hfile⟩ := hl
      · cases hvacant
      · cases hfile
  | cons s rest ih =>
      cases s with
      | here => exact ih h
      | slash => exact ih h
      | up => exact ih h
      | enter name =>
          obtain ⟨hslash, hlost, hfits, henters⟩ := enters_of_landFollowing h
          have hslash' : ¬ (u' = .create ∧ rest = [.slash]) := fun hboth =>
            hslash ⟨hcreate hboth.1, hboth.2⟩
          cases henters with
          | vacant hnode hrest =>
              obtain hvacant | ⟨permissions, c, hfile⟩ := hl
              · cases hvacant
                exact hend hlost hfits _ _ hrest
              · cases hfile
          | directory hnode h =>
              rw [landFollowing, if_neg hslash', if_neg (not_not_intro hlost),
                if_neg (Nat.not_lt.2 hfits), hkeeps hnode (by simp)]
              exact ih h
          | link hnode h =>
              rw [landFollowing, if_neg hslash', if_neg (not_not_intro hlost),
                if_neg (Nat.not_lt.2 hfits), hkeeps hnode (by simp)]
              dsimp only
              rw [if_neg fun hboth => hentry hboth.1]
              exact hfollow _ _ _ h hl
          | occupied hnode hne hrest =>
              obtain hvacant | ⟨permissions, c, hfile⟩ := hl
              · cases hvacant
              · cases hfile
                exact hend hlost hfits _ _ hrest

theorem land_of_isAt {n : Nat} {p : Place} {steps : List Step} {l : Landing}
    (h : land t u n p steps = .ok l) (hl : l.IsAt q m) : land t' u' n p steps = .ok l' := by
  induction n generalizing p steps l with
  | zero =>
      refine landFollowing_of_isAt hkeeps hentry hcreate hend ?_ h hl
      intro _ _ _ hfollow
      cases hfollow
  | succ n ih =>
      refine landFollowing_of_isAt hkeeps hentry hcreate hend ?_ h hl
      intro _ _ _ hfollow hat
      exact ih hfollow hat

theorem locate_of_isAt {start : Place} {p : Path} {l : Landing} (h : t.locate u start p = .ok l)
    (hl : l.IsAt q m) : t'.locate u' start p = .ok l' := by
  obtain ⟨hp, hland⟩ := locate_eq_ok_iff.1 h
  exact locate_eq_ok_iff.2 ⟨hp, land_of_isAt hkeeps hentry hcreate hend hland hl⟩

end

/-- At the end of the way stands what the tree shows there. -/
theorem landFollowing_of_shows {t : FileTree} {q : Place} {m : Name} {l : Landing} (hl : l.IsAt q m)
    (hshows : t.Shows l) (hlost : q.lost = 0) (hfits : Text.utf8Size m ≤ nameLimit) (u : Purpose)
    (follow : Place → List Step → Except OsError Landing) :
    landFollowing t u follow q [.enter m] = .ok l := by
  rw [landFollowing, if_neg (by simp), if_neg (not_not_intro hlost), if_neg (Nat.not_lt.2 hfits)]
  obtain rfl | ⟨permissions, c, rfl⟩ := hl
  · have hnode : t.node? (m :: q.address) = none := hshows
    rw [hnode]
    exact if_pos (by simp [Purpose.isAtEnd])
  · have hnode : t.node? (m :: q.address) = some (.file permissions c) := hshows
    rw [hnode]
    exact if_pos (by simp [Purpose.isAtEnd])

theorem locate_eq_of_isAt {t t' : FileTree} {u u' : Purpose} {q : Place} {m : Name}
    {l l' : Landing} {start : Place} {p : Path} (h : t.locate u start p = .ok l) (hl : l.IsAt q m)
    (hkeeps : t.KeepsWays t') (hshows : t'.Shows l') (hl' : l'.IsAt q m) (hu : u ≠ .entry)
    (hentry : u' ≠ .entry) (hcreate : u' = .create → u = .create) :
    t'.locate u' start p = .ok l' := by
  refine locate_of_isAt hkeeps hentry hcreate ?_ h hl
  intro hlost hfits follow rest hrest
  obtain rfl : rest = [] := by simpa [Purpose.isAtEnd, hu] using hrest
  exact landFollowing_of_shows hl' hshows hlost hfits u' follow

theorem KeepsWays.refl (t : FileTree) : t.KeepsWays t := fun _ _ h _ => h

/-- Where a file was opened, a walk had ended. -/
theorem exists_locate_of_openForWriting {t t' : FileTree} {start : Place} {p : Path}
    {mode : WriteMode} {a : Address} (h : t.openForWriting start p mode = .ok (t', .file a)) :
    ∃ l q m, t.locate .create start p = .ok l ∧ l.IsAt q m ∧ a = m :: q.address := by
  unfold openForWriting at h
  split at h
  · cases h
  case h_2 q m hland =>
      cases h
      exact ⟨_, q, m, hland, .inl rfl, rfl⟩
  case h_3 q m permissions c hland =>
      cases mode with
      | truncate =>
          cases h
          exact ⟨_, q, m, hland, .inr ⟨_, _, rfl⟩, rfl⟩
      | append =>
          cases h
          exact ⟨_, q, m, hland, .inr ⟨_, _, rfl⟩, rfl⟩
  all_goals cases h

/-- The file that was opened stands where the path leads. -/
theorem locate_of_openForWriting {t t' : FileTree} {start : Place} {p : Path} {mode : WriteMode}
    {a : Address} (h : t.openForWriting start p mode = .ok (t', .file a)) {u : Purpose}
    (hu : u ≠ .entry) : ∃ q m permissions c, a = m :: q.address ∧
      t'.locate u start p = .ok (.occupied q m (.file permissions c)) := by
  have hopens := opens_of_openForWriting h
  obtain ⟨permissions, hafter⟩ := hopens.after
  obtain ⟨l, q, m, hland, hl, rfl⟩ := exists_locate_of_openForWriting h
  have hshows : t'.Shows (.occupied q m (.file permissions _)) := hafter
  exact ⟨q, m, permissions, _, rfl, locate_eq_of_isAt hland hl hopens.keepsWays hshows
    (.inr ⟨_, _, rfl⟩) (by simp) hu fun _ => rfl⟩

/-- The directory that was made stands where the path leads. -/
theorem exists_locate_of_makeDirectory {t t' : FileTree} {start : Place} {p : Path}
    (h : t.makeDirectory start p = .ok t') : ∃ a, t' = t.set a .directory ∧ t.node? a = none ∧
      t'.locate .find start p = .ok (.directory (.ofAddress a)) := by
  have hadds := addsDirectories_makeDirectory h
  unfold makeDirectory at h
  split at h
  · cases h
  case h_2 q m hland =>
      cases h
      refine ⟨m :: q.address, rfl, shows_of_locate hland, ?_⟩
      refine locate_of_isAt hadds.keepsWays (by simp) (by simp) ?_ hland (.inl rfl)
      intro hlost hfits follow rest hrest
      rw [landFollowing, if_neg (by simp), if_neg (not_not_intro hlost),
        if_neg (Nat.not_lt.2 hfits), node?_set_self t _ (List.cons_ne_nil _ _)]
      have hcases : rest = [] ∨ rest = [.slash] := by simpa [Purpose.isAtEnd] using hrest
      obtain rfl | rfl := hcases
      · rfl
      · rfl
  · cases h

theorem leadsToDirectory_of_makeDirectory {t t' : FileTree} {start : Place} {p : Path}
    (h : t.makeDirectory start p = .ok t') : t'.leadsToDirectory start p = true := by
  obtain ⟨a, -, -, hlocate⟩ := exists_locate_of_makeDirectory h
  unfold leadsToDirectory nodeAt?
  rw [hlocate]

/-- A walk enters a directory, and so it does not end at one. -/
theorem landFollowing_ne_occupied_directory {t : FileTree} {u : Purpose} {q : Place} {m : Name}
    {follow : Place → List Step → Except OsError Landing}
    (hfollow : ∀ p steps, follow p steps ≠ .ok (.occupied q m .directory)) (p : Place)
    (steps : List Step) : landFollowing t u follow p steps ≠ .ok (.occupied q m .directory) := by
  intro h
  induction steps generalizing p with
  | nil => cases h
  | cons s rest ih =>
      cases s with
      | here => exact ih p h
      | slash => exact ih p h
      | up => exact ih p.parent h
      | enter name =>
          obtain ⟨-, -, -, henters⟩ := enters_of_landFollowing h
          cases henters with
          | directory hnode h => exact ih _ h
          | link hnode h => exact hfollow _ _ h
          | occupied hnode hne hend => exact hne rfl

theorem land_ne_occupied_directory (t : FileTree) (u : Purpose) (q : Place) (m : Name) (n : Nat)
    (p : Place) (steps : List Step) : land t u n p steps ≠ .ok (.occupied q m .directory) := by
  induction n generalizing p steps with
  | zero => exact landFollowing_ne_occupied_directory (by simp) p steps
  | succ n ih => exact landFollowing_ne_occupied_directory ih p steps

/-- A path that leads to a directory, step by step. -/
theorem exists_leads_of_leadsToDirectory {t : FileTree} {start : Place} {p : Path}
    (h : t.leadsToDirectory start p = true) :
    Accepts p ∧ ∃ k d, k ≤ linkLimit ∧ t.Leads k (origin start p) (Step.ofPath p) d := by
  unfold leadsToDirectory nodeAt? at h
  rcases hlocate : t.locate .find start p with e | ⟨d⟩ | ⟨q, m, node⟩ | ⟨q, m⟩
  · rw [hlocate] at h
    cases h
  · obtain ⟨hp, hland⟩ := locate_eq_ok_iff.1 hlocate
    obtain ⟨k, hk, hleads⟩ := exists_leads_of_land hland
    exact ⟨hp, k, d, hk, hleads⟩
  · rw [hlocate] at h
    cases node with
    | directory =>
        have hland := (locate_eq_ok_iff.1 hlocate).2
        exact absurd hland (land_ne_occupied_directory t .find q m linkLimit _ _)
    | _ => cases h
  · rw [hlocate] at h
    cases h

theorem leadsToDirectory_of_keepsWays {t t' : FileTree} (hkeeps : t.KeepsWays t') {start : Place}
    {p : Path} (h : t.leadsToDirectory start p = true) : t'.leadsToDirectory start p = true := by
  obtain ⟨hp, k, d, hk, hleads⟩ := exists_leads_of_leadsToDirectory h
  exact leadsToDirectory_of_leads (hleads.mono hkeeps) hk hp

/-- When all that is missing of a path could be made, the path leads to a directory. -/
theorem leadsToDirectory_of_makeDirectories {t t' : FileTree} {start : Place} {p : Path}
    {above : List Path} (h : t.makeDirectories start (p :: above) = (t', .ok ())) :
    p = [] ∨ t'.leadsToDirectory start p = true := by
  have hthere : ∀ {t₁ : FileTree} {e : IoError},
      (t₁, if t₁.leadsToDirectory start p then Except.ok () else .error e) = (t', .ok ()) →
        t'.leadsToDirectory start p = true := by
    intro t₁ e heq
    split at heq
    · cases heq
      assumption
    · cases heq
  rw [makeDirectories] at h
  split at h
  · exact .inl ‹_›
  refine .inr ?_
  split at h
  case h_1 hmade =>
      cases h
      exact leadsToDirectory_of_makeDirectory hmade
  case h_2 =>
      split at h
      · cases h
      · split at h
        case h_1 hmade =>
            cases h
            exact leadsToDirectory_of_makeDirectory hmade
        case h_2 => exact hthere h
  case h_3 => exact hthere h

/-- The file at `a` stands behind the path, and a directory behind its parent. -/
structure Stands (t : FileTree) (start : Place) (p : Path) (a : Address) : Prop where
  found : ∃ q m permissions c, a = m :: q.address ∧
    t.locate .create start p = .ok (.occupied q m (.file permissions c))
  not_directory : t.leadsToDirectory start p = false
  parent : ∀ parent, Path.parent? p = some parent →
    parent = [] ∨ t.leadsToDirectory start parent = true

namespace Stands

variable {t t' : FileTree} {start : Place} {p : Path} {a : Address}

theorem of_sameShape (h : t.Stands start p a) (hshape : t.SameShape t') : t'.Stands start p a := by
  constructor
  · obtain ⟨q, m, permissions, c, rfl, hlocate⟩ := h.found
    have hlanding := locate_map_shape hshape .create start p
    rw [hlocate] at hlanding
    rcases hlocate' : t'.locate .create start p with e | ⟨d⟩ | ⟨q', m', node⟩ | ⟨q', m'⟩
    · rw [hlocate'] at hlanding
      cases hlanding
    · rw [hlocate'] at hlanding
      cases hlanding
    · rw [hlocate'] at hlanding
      cases node with
      | file permissions' c' =>
          cases hlanding
          exact ⟨_, _, _, _, rfl, rfl⟩
      | _ => cases hlanding
    · rw [hlocate'] at hlanding
      cases hlanding
  · rw [leadsToDirectory_of_sameShape hshape]
    exact h.not_directory
  · intro parent hparent
    rw [leadsToDirectory_of_sameShape hshape]
    exact h.parent parent hparent

/-- Nothing has to be made for the path. -/
theorem createDirectories_eq (h : t.Stands start p a) {parent : Path}
    (hparent : Path.parent? p = some parent) : t.createDirectories start parent = (t, .ok ()) := by
  rw [createDirectories, Path.ancestors]
  obtain rfl | hleads := h.parent parent hparent
  · rw [makeDirectories, if_pos rfl]
  · obtain ⟨hp, k, d, hk, hleads⟩ := exists_leads_of_leadsToDirectory hleads
    exact makeDirectories_of_leads hleads hk hp _

theorem exists_nodeAt? (h : t.Stands start p a) : ∃ permissions c,
    t.node? a = some (.file permissions c) ∧ t.nodeAt? start p = .ok (.file permissions c) := by
  obtain ⟨q, m, permissions, c, rfl, hlocate⟩ := h.found
  have hshows := shows_of_locate hlocate
  have hat : Landing.IsAt (.occupied q m (.file permissions c)) q m := .inr ⟨_, _, rfl⟩
  have hfind : t.locate .find start p = .ok (.occupied q m (.file permissions c)) :=
    locate_eq_of_isAt hlocate hat (.refl t) hshows hat (by simp) (by simp) (by simp)
  refine ⟨permissions, c, hshows, ?_⟩
  rw [nodeAt?, hfind]

theorem exists_openForWriting (h : t.Stands start p a) (mode : WriteMode) :
    ∃ t', t.openForWriting start p mode = .ok (t', .file a) := by
  obtain ⟨q, m, permissions, c, rfl, hlocate⟩ := h.found
  unfold openForWriting
  rw [hlocate]
  cases mode with
  | truncate => exact ⟨_, rfl⟩
  | append => exact ⟨_, rfl⟩

end Stands

end FileTree

namespace Redirection

open FileTree

section

variable {t t' t₁ : FileTree} {process : Place} {currentDir : Path} {f : Text} {p : Path}
  {mode : WriteMode} {a : Address}

/-- The path leads to no directory, and the directories above it have been made. -/
structure Prepares (t : FileTree) (process : Place) (p : Path) (t₁ : FileTree) : Prop where
  not_directory : t.leadsToDirectory process p = false
  made : (Path.parent? p = none ∧ t₁ = t) ∨
    ∃ parent, Path.parent? p = some parent ∧ t.createDirectories process parent = (t₁, .ok ())

theorem openTarget_eq_ok_iff {w : WriteTarget} :
    openTarget t process currentDir f mode = (t', .ok w) ↔
      ∃ t₁, Prepares t process (Path.join currentDir f) t₁ ∧
        t₁.openForWriting process (Path.join currentDir f) mode = .ok (t', w) := by
  unfold openTarget
  dsimp only
  constructor
  · intro h
    split at h
    · cases h
    case isFalse hdirectory =>
        have hdirectory : t.leadsToDirectory process (Path.join currentDir f) = false := by
          simpa using hdirectory
        split at h
        case h_1 hparent =>
            exact ⟨t, ⟨hdirectory, .inl ⟨hparent, rfl⟩⟩, openForWriting_of_openFile h⟩
        case h_2 parent hparent =>
            split at h
            · cases h
            case h_2 t₁ hmade =>
                exact ⟨t₁, ⟨hdirectory, .inr ⟨parent, hparent, hmade⟩⟩,
                  openForWriting_of_openFile h⟩
  · rintro ⟨t₁, ⟨hdirectory, hmade⟩, hopen⟩
    have hfile : openTarget.openFile process mode t₁ (Path.join currentDir f) = (t', .ok w) := by
      rw [openTarget.openFile, hopen]
    rw [hdirectory]
    obtain ⟨hparent, rfl⟩ | ⟨parent, hparent, hmade⟩ := hmade
    · rw [hparent]
      exact hfile
    · rw [hparent]
      dsimp only
      rw [hmade]
      exact hfile

theorem Prepares.leadsToDirectory_parent (h : Prepares t process p t₁) {parent : Path}
    (hparent : Path.parent? p = some parent) :
    parent = [] ∨ t₁.leadsToDirectory process parent = true := by
  obtain ⟨hnone, -⟩ | ⟨parent', hsome, hmade⟩ := h.made
  · rw [hparent] at hnone
    cases hnone
  · rw [hparent] at hsome
    obtain rfl := Option.some.inj hsome
    exact leadsToDirectory_of_makeDirectories hmade

theorem Prepares.of_stands (h : t.Stands process p a) : Prepares t process p t := by
  refine ⟨h.not_directory, ?_⟩
  cases hparent : Path.parent? p with
  | none => exact .inl ⟨rfl, rfl⟩
  | some parent => exact .inr ⟨parent, rfl, h.createDirectories_eq hparent⟩

/-- The regular file at `a` is what `f` opens, in one mode or the other, and it is made if
it is not there. -/
def OpensFile (t : FileTree) (process : Place) (currentDir : Path) (f : Text) (a : Address) :
    Prop :=
  ∃ mode t', openTarget t process currentDir f mode = (t', .ok (.file a))

/-- Whether a file can be opened does not depend on the mode. -/
theorem exists_openForWriting_of_mode (h : t.openForWriting process p mode = .ok (t', .file a))
    (mode' : WriteMode) : ∃ t'', t.openForWriting process p mode' = .ok (t'', .file a) := by
  unfold openForWriting at h ⊢
  split at h
  case h_1 => cases h
  case h_2 =>
      cases h
      exact ⟨_, rfl⟩
  case h_3 q m permissions c _ =>
      obtain rfl : m :: q.address = a := by
        cases mode with
        | truncate =>
            cases h
            rfl
        | append =>
            cases h
            rfl
      cases mode' with
      | truncate => exact ⟨_, rfl⟩
      | append => exact ⟨_, rfl⟩
  all_goals cases h

theorem OpensFile.exists_openTarget (h : OpensFile t process currentDir f a) (mode : WriteMode) :
    ∃ t', openTarget t process currentDir f mode = (t', .ok (.file a)) := by
  obtain ⟨mode', t', hopen⟩ := h
  obtain ⟨t₁, hprepares, hopen⟩ := openTarget_eq_ok_iff.1 hopen
  obtain ⟨t'', hopen'⟩ := exists_openForWriting_of_mode hopen mode
  exact ⟨t'', openTarget_eq_ok_iff.2 ⟨t₁, hprepares, hopen'⟩⟩

theorem Prepares.addsDirectories (h : Prepares t process p t₁) : t.AddsDirectories t₁ := by
  obtain ⟨-, rfl⟩ | ⟨parent, -, hmade⟩ := h.made
  · exact .refl _
  · have hadds := t.addsDirectories_createDirectories process parent
    rw [hmade] at hadds
    exact hadds

/-- A file that is there is the one that its path opens. -/
theorem OpensFile.node?_eq (h : OpensFile t process currentDir f a) {permissions : Nat}
    {c : Contents}
    (hnode : t.nodeAt? process (Path.join currentDir f) = .ok (.file permissions c)) :
    t.node? a = some (.file permissions c) := by
  obtain ⟨mode, t', hopen⟩ := h
  obtain ⟨t₁, hprepares, hopen⟩ := openTarget_eq_ok_iff.1 hopen
  have hadds := hprepares.addsDirectories
  obtain ⟨q, m, hfound⟩ : ∃ q m, t.locate .find process (Path.join currentDir f) =
      .ok (.occupied q m (.file permissions c)) := by
    unfold nodeAt? at hnode
    split at hnode
    · cases hnode
    · cases hnode
    case h_3 q m node hlocate =>
        cases hnode
        exact ⟨q, m, hlocate⟩
    · cases hnode
  have hshows : t.node? (m :: q.address) = some (.file permissions c) := shows_of_locate hfound
  have hat : Landing.IsAt (.occupied q m (.file permissions c)) q m := .inr ⟨_, _, rfl⟩
  have hkept : t₁.Shows (.occupied q m (.file permissions c)) := by
    obtain heq | ⟨hnone, -⟩ := hadds (m :: q.address)
    · exact heq.trans hshows
    · rw [hshows] at hnone
      cases hnone
  -- Both walks end at the same landing, once the directories have been made.
  have hfound' : t₁.locate .find process (Path.join currentDir f) =
      .ok (.occupied q m (.file permissions c)) :=
    locate_eq_of_isAt hfound hat hadds.keepsWays hkept hat (by simp) (by simp) (by simp)
  obtain ⟨l, q', m', hopened, hl, rfl⟩ := exists_locate_of_openForWriting hopen
  have hopened' : t₁.locate .find process (Path.join currentDir f) = .ok l :=
    locate_eq_of_isAt hopened hl (.refl t₁) (shows_of_locate hopened) hl (by simp) (by simp)
      (by simp)
  rw [hfound'] at hopened'
  cases hopened'
  obtain hvacant | ⟨permissions', c', hfile⟩ := hl
  · cases hvacant
  · cases hfile
    exact hshows

/-- A regular file that was opened stands behind its path. -/
theorem stands_of_openTarget (h : openTarget t process currentDir f mode = (t', .ok (.file a))) :
    t'.Stands process (Path.join currentDir f) a := by
  obtain ⟨t₁, hprepares, hopen⟩ := openTarget_eq_ok_iff.1 h
  have hkeeps := (opens_of_openForWriting hopen).keepsWays
  constructor
  · obtain ⟨q, m, permissions, c, rfl, hlocate⟩ :=
      locate_of_openForWriting hopen (by simp : Purpose.create ≠ .entry)
    exact ⟨q, m, permissions, c, rfl, hlocate⟩
  · obtain ⟨q, m, permissions, c, -, hlocate⟩ :=
      locate_of_openForWriting hopen (by simp : Purpose.find ≠ .entry)
    unfold leadsToDirectory nodeAt?
    rw [hlocate]
  · intro parent hparent
    obtain hnil | hleads := hprepares.leadsToDirectory_parent hparent
    · exact .inl hnil
    · exact .inr (leadsToDirectory_of_keepsWays hkeeps hleads)

/-- And a file that stands behind its path can be opened. -/
theorem OpensFile.of_stands (h : t.Stands process (Path.join currentDir f) a) :
    OpensFile t process currentDir f a := by
  obtain ⟨t', hopen⟩ := h.exists_openForWriting .append
  exact ⟨.append, t', openTarget_eq_ok_iff.2 ⟨t, .of_stands h, hopen⟩⟩

end

end Redirection

end CommandShell
