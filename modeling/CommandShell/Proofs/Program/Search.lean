import CommandShell.Proofs.FileTree.Leading
import CommandShell.Proofs.Program.Run

/-!
# Which file is started

A name without a separator is looked for a second time when a program is started. The
search tries one candidate after the other: it stops at the first that starts, passes
over those that are missing or may not be executed, and gives up at any other failure
(`Reaches`). A candidate that is no file to execute is passed over unless the way to it
has too many links or too long a name (`FileTree.Blocks`).

The main statement is `ProgramCall.reaches_searchCandidates_iff`: where the name itself
can be started and an element of the search path is empty, the search comes to it if
nothing blocks the way in front.
-/

namespace CommandShell

theorem Text.mem_of_mem_pieces {sep c : Char} {t p : Text} (h : p ∈ pieces sep t) (hc : c ∈ p) :
    c ∈ t := by
  induction t generalizing p with
  | nil =>
      obtain rfl := List.mem_singleton.1 h
      cases hc
  | cons d t ih =>
      by_cases hd : d = sep
      · rw [hd, pieces_cons_self] at h
        obtain rfl | h := List.mem_cons.1 h
        · cases hc
        · exact List.mem_cons_of_mem d (ih h hc)
      · obtain ⟨q, qs, hq, hcons⟩ := pieces_cons_of_ne hd t
        rw [hcons] at h
        obtain rfl | h := List.mem_cons.1 h
        · obtain rfl | hc := List.mem_cons.1 hc
          · exact List.mem_cons_self
          · exact List.mem_cons_of_mem d (ih (by rw [hq]; exact List.mem_cons_self) hc)
        · exact List.mem_cons_of_mem d (ih (by rw [hq]; exact List.mem_cons_of_mem q h) hc)

namespace FileTree

/-- The path cannot be followed to its end, for its names or its links. -/
def Blocks (t : FileTree) (start : Place) (p : Path) : Prop :=
  t.locate .find start p = .error (.os .nameTooLong) ∨
    t.locate .find start p = .error (.os .linkLoop)

/-- The failures of a walk that only looks. -/
def IsWalkError (e : OsError) : Prop :=
  e = .notFound ∨ e = .notDirectory ∨ e = .nameTooLong ∨ e = .linkLoop

theorem isWalkError_of_landFollowing {t : FileTree}
    {follow : Place → List Step → Except OsError Landing}
    (hfollow : ∀ p steps e, follow p steps = .error e → IsWalkError e) {p : Place}
    {steps : List Step} {e : OsError} (h : landFollowing t .find follow p steps = .error e) :
    IsWalkError e := by
  induction steps generalizing p with
  | nil => cases h
  | cons s rest ih =>
      cases s with
      | here => exact ih h
      | slash => exact ih h
      | up => exact ih h
      | enter name =>
          rw [landFollowing, if_neg (by simp)] at h
          split at h
          · cases h
            exact .inl rfl
          split at h
          · cases h
            exact .inr (.inr (.inl rfl))
          split at h
          · split at h
            · cases h
            · cases h
              exact .inl rfl
          · exact ih h
          · rw [if_neg (by simp)] at h
            exact hfollow _ _ _ h
          · split at h
            · cases h
            · cases h
              exact .inr (.inl rfl)

theorem isWalkError_of_land {t : FileTree} {n : Nat} {p : Place} {steps : List Step} {e : OsError}
    (h : land t .find n p steps = .error e) : IsWalkError e := by
  induction n generalizing p steps e with
  | zero =>
      refine isWalkError_of_landFollowing ?_ h
      intro _ _ _ hfollow
      cases hfollow
      exact .inr (.inr (.inr rfl))
  | succ n ih => exact isWalkError_of_landFollowing (fun _ _ _ hfollow => ih hfollow) h

/-- A path without a NUL either leads on, or is missing, or is blocked. -/
theorem locate_find_cases (t : FileTree) (start : Place) {p : Path} (hnul : '\x00' ∉ p) :
    (∃ l, t.locate .find start p = .ok l) ∨ t.locate .find start p = .error (.os .notFound) ∨
      t.locate .find start p = .error (.os .notDirectory) ∨ t.Blocks start p := by
  unfold Blocks
  rw [locate, if_neg hnul]
  split
  · exact .inr (.inl rfl)
  split
  · exact .inr (.inr (.inr (.inl rfl)))
  rcases hland : land t .find linkLimit (origin start p) (Step.ofPath p) with e | l
  · obtain rfl | rfl | rfl | rfl := isWalkError_of_land hland
    · exact .inr (.inl rfl)
    · exact .inr (.inr (.inl rfl))
    · exact .inr (.inr (.inr (.inl rfl)))
    · exact .inr (.inr (.inr (.inr rfl)))
  · exact .inl ⟨l, rfl⟩

end FileTree

namespace ProgramCall

/-- The search goes on behind a file whose start ends in this way. -/
def IsPassedOver (r : Except IoError Startup) : Prop :=
  r = .error (.os .permissionDenied) ∨ r = .error (.os .notFound) ∨ r = .error (.os .notDirectory)

/-- The first file that is not passed over starts in this way. -/
inductive Reaches (start : Path → Except IoError Startup) (s : Startup) : List Path → Prop
  | here {p ps} (h : start p = .ok s) : Reaches start s (p :: ps)
  | next {p ps} (hpassed : IsPassedOver (start p)) (h : Reaches start s ps) :
      Reaches start s (p :: ps)

theorem reaches_cons_iff {start : Path → Except IoError Startup} {s : Startup} {p : Path}
    {ps : List Path} :
    Reaches start s (p :: ps) ↔ start p = .ok s ∨ IsPassedOver (start p) ∧ Reaches start s ps := by
  constructor
  · intro h
    cases h with
    | here h => exact .inl h
    | next hpassed h => exact .inr ⟨hpassed, h⟩
  · rintro (h | ⟨hpassed, h⟩)
    · exact .here h
    · exact .next hpassed h

theorem Reaches.exists_start {start : Path → Except IoError Startup} {s : Startup}
    {ps : List Path} (h : Reaches start s ps) : ∃ p ∈ ps, start p = .ok s := by
  induction h with
  | here h => exact ⟨_, List.mem_cons_self, h⟩
  | next _ _ ih =>
      obtain ⟨p, hp, hstart⟩ := ih
      exact ⟨p, List.mem_cons_of_mem _ hp, hstart⟩

theorem startAmong_eq_ok_iff {start : Path → Except IoError Startup} {denied : Bool}
    {last : OsError} {ps : List Path} {s : Startup} :
    startAmong start denied last ps = .ok s ↔ Reaches start s ps := by
  induction ps generalizing denied last with
  | nil =>
      constructor
      · intro h
        cases h
      · intro h
        cases h
  | cons p ps ih =>
      rw [reaches_cons_iff, startAmong]
      split
      case h_1 hstart => simp [hstart, IsPassedOver]
      case h_2 hstart => simp [hstart, IsPassedOver, ih]
      case h_3 hstart => simp [hstart, IsPassedOver, ih]
      case h_4 hstart => simp [hstart, IsPassedOver, ih]
      case h_5 e hdenied hfound hdirectory hstart =>
          have hnot : ¬ IsPassedOver (.error e) := by
            rintro (h | h | h)
            · exact hdenied (Except.error.inj h)
            · exact hfound (Except.error.inj h)
            · exact hdirectory (Except.error.inj h)
          simp [hstart, hnot]

/-- If no candidate is there, the program is missing. -/
theorem startAmong_of_forall_notFound {start : Path → Except IoError Startup} {ps : List Path}
    (h : ∀ p ∈ ps, start p = .error (.os .notFound)) :
    startAmong start false .notFound ps = .error (.os .notFound) := by
  induction ps with
  | nil => rfl
  | cons p ps ih =>
      rw [startAmong, h p List.mem_cons_self]
      exact ih fun q hq => h q (List.mem_cons_of_mem p hq)

section

variable {t : FileTree} {dir : Place} {busy : List Address} {environ argv : List Text}
  {shell : Bool}

theorem startAt_of_error {p : Path} {e : IoError} (h : executableAt t dir busy p = .error e) :
    startAt t dir busy environ argv shell p = .error e := by
  rw [startAt, h]

theorem fits_of_startAt {p : Path} {s : Startup}
    (h : startAt t dir busy environ argv shell p = .ok s) :
    (argv ++ environ).any (argumentLimit ≤ Text.utf8Size ·) = false := by
  unfold startAt at h
  split at h
  · cases h
  split at h
  · cases h
  case isFalse hfits => exact Bool.eq_false_iff.2 hfits

/-- What is no file to execute is passed over, unless the way to it is blocked. -/
theorem executableAt_of_not_leadsToExecutable {p : Path} (hnul : '\x00' ∉ p)
    (h : t.leadsToExecutable dir p = false) (busy : List Address) :
    ∃ e, executableAt t dir busy p = .error (.os e) ∧
      ((e = .permissionDenied ∨ e = .notFound ∨ e = .notDirectory) ∧ ¬ t.Blocks dir p ∨
        (e = .nameTooLong ∨ e = .linkLoop) ∧ t.Blocks dir p) := by
  unfold FileTree.leadsToExecutable FileTree.nodeAt? at h
  unfold executableAt FileTree.Blocks
  obtain ⟨l, hl⟩ | hl | hl | hl | hl := t.locate_find_cases dir hnul
  · rw [hl] at h ⊢
    rcases l with place | ⟨place, n, node⟩ | ⟨place, n⟩
    · exact ⟨.permissionDenied, by simp⟩
    · cases node with
      | file permissions contents =>
          have hdenied : FileTree.mayExecute permissions = false := h
          exact ⟨.permissionDenied, by simp [hdenied]⟩
      | directory => exact ⟨.permissionDenied, by simp⟩
      | link target => exact ⟨.permissionDenied, by simp⟩
      | device d => exact ⟨.permissionDenied, by simp⟩
    · exact ⟨.notFound, by simp⟩
  · exact ⟨.notFound, by simp [hl]⟩
  · exact ⟨.notDirectory, by simp [hl]⟩
  · exact ⟨.nameTooLong, by simp [hl]⟩
  · exact ⟨.linkLoop, by simp [hl]⟩

/-- So it does not start, and the search goes on behind it if nothing blocks the way. -/
theorem startAt_of_not_leadsToExecutable {p : Path} (hnul : '\x00' ∉ p)
    (h : t.leadsToExecutable dir p = false) :
    (∀ s, startAt t dir busy environ argv shell p ≠ .ok s) ∧
      (IsPassedOver (startAt t dir busy environ argv shell p) ↔ ¬ t.Blocks dir p) := by
  obtain ⟨e, he, hcases⟩ := executableAt_of_not_leadsToExecutable hnul h busy
  rw [startAt_of_error he]
  refine ⟨fun s hs => (by cases hs), ?_⟩
  obtain ⟨rfl | rfl | rfl, hblocks⟩ | ⟨rfl | rfl, hblocks⟩ := hcases
  all_goals simp [IsPassedOver, hblocks]

end

theorem exists_land_of_executableAt {t : FileTree} {dir : Place} {busy : List Address} {p : Path}
    {contents : Contents} (h : executableAt t dir busy p = .ok contents) :
    FileTree.Accepts p ∧ ∃ place n node, FileTree.land t .find FileTree.linkLimit
      (FileTree.origin dir p) (Step.ofPath p) = .ok (.occupied place n node) := by
  unfold executableAt at h
  split at h
  · cases h
  · cases h
  case h_3 hlocate =>
      obtain ⟨haccepts, hland⟩ := FileTree.locate_eq_ok_iff.1 hlocate
      exact ⟨haccepts, _, _, _, hland⟩
  · cases h

/-- A name that can be executed is not too long for a directory. -/
theorem utf8Size_le_of_executableAt {t : FileTree} {dir : Place} {busy : List Address} {p : Path}
    {contents : Contents} (h : executableAt t dir busy p = .ok contents) (hp : '/' ∉ p) :
    Text.utf8Size p ≤ FileTree.nameLimit := by
  obtain ⟨haccepts, place, n, node, hland⟩ := exists_land_of_executableAt h
  have hpieces : Text.pieces '/' p = [p] := by
    have hpieces := Text.pieces_append_of_not_mem hp (Text.pieces_nil '/')
    rwa [List.append_nil] at hpieces
  have hsteps : Step.ofPath p = (Step.ofPiece? p).toList := by
    have hlast : p.getLast? ≠ some '/' := fun hlast => hp (List.mem_of_getLast? hlast)
    rw [Step.ofPath, hpieces, if_neg hlast, List.append_nil, List.filterMap_cons]
    cases Step.ofPiece? p <;> rfl
  rw [hsteps, Step.ofPiece?, if_neg haccepts.ne_nil] at hland
  split at hland
  · cases hland
  split at hland
  · cases hland
  · exact (FileTree.enters_of_landFollowing hland).2.2.1

theorem fits_of_startup {pf : Platform} {t : FileTree} {dir : Place} {busy : List Address}
    {environ argv : List Text} {shell : Bool} {program : Path} {s : Startup}
    (h : startup pf t dir busy environ argv shell program = .ok s) :
    (argv ++ environ).any (argumentLimit ≤ Text.utf8Size ·) = false := by
  unfold startup at h
  split at h
  · exact fits_of_startAt h
  split at h
  · cases h
  · obtain ⟨p, -, hstart⟩ := (startAmong_eq_ok_iff.1 h).exists_start
    exact fits_of_startAt hstart

theorem length_of_enter {t : FileTree} {start place : Place} {p : Path}
    (h : enter t start p = .ok place) : Text.utf8Size p < FileTree.pathLimit := by
  rcases hlocate : t.locate .find start p with e | l
  · rw [enter, hlocate] at h
    cases h
  · exact (FileTree.locate_eq_ok_iff.1 hlocate).1.length

/-- The elements of a search path in front of the first that stands for the directory
itself. -/
def elementsInFront (dirs : List Text) : List Text :=
  dirs.takeWhile fun dir => dir ≠ [] && Text.utf8Size dir < FileTree.pathLimit

theorem elementsInFront_nil_cons (dirs : List Text) : elementsInFront ([] :: dirs) = [] := rfl

theorem elementsInFront_long_cons {dir : Text} (h : FileTree.pathLimit ≤ Text.utf8Size dir)
    (dirs : List Text) : elementsInFront (dir :: dirs) = [] := by
  rw [elementsInFront, List.takeWhile_cons_of_neg (by simp [h])]

theorem elementsInFront_cons {dir : Text} (hne : dir ≠ [])
    (h : Text.utf8Size dir < FileTree.pathLimit) (dirs : List Text) :
    elementsInFront (dir :: dirs) = dir :: elementsInFront dirs := by
  rw [elementsInFront, List.takeWhile_cons_of_pos (by simp [hne, h])]
  rfl

/-- Where the name itself can be started and an element is empty, the search comes to the
name or stops in front of it. -/
theorem reaches_candidatesIn_iff {start : Path → Except IoError Startup} {s : Startup}
    {name : Text} (hname : start name = .ok s) {dirs : List Text} (hempty : [] ∈ dirs)
    (helse : ∀ dir ∈ elementsInFront dirs, ∀ s', start (dir ++ '/' :: name) ≠ .ok s') :
    Reaches start s (candidatesIn name dirs) ↔
      ∀ dir ∈ elementsInFront dirs, IsPassedOver (start (dir ++ '/' :: name)) := by
  induction dirs with
  | nil => cases hempty
  | cons dir dirs ih =>
      by_cases hlong : FileTree.pathLimit ≤ Text.utf8Size dir
      · have hne : dir ≠ [] := by
          rintro rfl
          cases hlong
        have hrest : [] ∈ dirs := by simpa [Ne.symm hne] using hempty
        rw [candidatesIn, if_pos hlong, if_neg (List.ne_nil_of_mem hrest),
          elementsInFront_long_cons hlong]
        simp [Reaches.here hname]
      by_cases hnil : dir = []
      · rw [candidatesIn, if_neg hlong, if_pos hnil, hnil, elementsInFront_nil_cons]
        simp [Reaches.here hname]
      · rw [elementsInFront_cons hnil (Nat.lt_of_not_le hlong)] at helse ⊢
        obtain ⟨hfirst, hothers⟩ := List.forall_mem_cons.1 helse
        have hrest : [] ∈ dirs := by simpa [Ne.symm hnil] using hempty
        rw [candidatesIn, if_neg hlong, if_neg hnil, reaches_cons_iff, ih hrest hothers,
          List.forall_mem_cons]
        simp [hfirst s]

section

variable {t : FileTree} {dir : Place} {busy : List Address} {environ argv : List Text}
  {shell : Bool} {name searchPath : Text}

/-- The search for a name that can be started itself, along a search path on which it was
not found in front of the first empty element. -/
theorem reaches_searchCandidates_iff {s : Startup}
    (hname : startAt t dir busy environ argv shell name = .ok s)
    (hempty : [] ∈ Text.pieces ':' searchPath) (hnul : '\x00' ∉ searchPath)
    (hnul' : '\x00' ∉ name)
    (helse : ∀ d ∈ elementsInFront (Text.pieces ':' searchPath),
      t.leadsToExecutable dir (d ++ '/' :: name) = false) :
    Reaches (startAt t dir busy environ argv shell) s (searchCandidates searchPath name) ↔
      ∀ d ∈ elementsInFront (Text.pieces ':' searchPath), ¬ t.Blocks dir (d ++ '/' :: name) := by
  have hcandidate : ∀ d ∈ elementsInFront (Text.pieces ':' searchPath),
      (∀ s', startAt t dir busy environ argv shell (d ++ '/' :: name) ≠ .ok s') ∧
        (IsPassedOver (startAt t dir busy environ argv shell (d ++ '/' :: name)) ↔
          ¬ t.Blocks dir (d ++ '/' :: name)) := by
    intro d hd
    have hpiece : d ∈ Text.pieces ':' searchPath := (List.takeWhile_prefix _).subset hd
    have hclean : '\x00' ∉ d ++ '/' :: name := by
      have hd : '\x00' ∉ d := fun h => hnul (Text.mem_of_mem_pieces hpiece h)
      simp [hd, hnul']
    exact startAt_of_not_leadsToExecutable hclean (helse d hd)
  rw [searchCandidates, reaches_candidatesIn_iff hname hempty fun d hd => (hcandidate d hd).1]
  exact forall₂_congr fun d hd => (hcandidate d hd).2

end

end ProgramCall

end CommandShell
