import CommandShell.Proofs.FileTree.Reopening
import CommandShell.Proofs.State.Writing

/-!
# What opening a target touches

However far opening a target comes, all that it makes on the way are directories that were
missing, and each of them is where a path above the target leads (`FileTree.MadeOn`). Only
in its last step does it touch a file, the one to which the path of the target itself
leads, and only if nothing has failed before. A path that leads to a directory is refused
with nothing made at all.

What a failed step leaves is what the steps before it made, so one walk through the steps
(`Redirection.openTarget_cases`) gives all of this. The main statement is
`Redirection.openTarget_eq_isDirectory_iff_and_touches`.
-/

namespace CommandShell

/-- The paths at which directories are made for a target where they are missing: its parent
and those above that. -/
def Path.parents (p : Path) : List Path :=
  match parent? p with
  | none => []
  | some parent => ancestors parent

theorem Path.parents_of_parent? {p parent : Path} (h : parent? p = some parent) :
    parents p = ancestors parent := by
  rw [parents, h]

namespace FileTree

section

variable {t t' t'' : FileTree} {start d : Place} {p : Path} {ps qs : List Path} {a : Address}

/-- The system comes from the path to this directory, through links or not. -/
structure LeadsTo (t : FileTree) (start : Place) (p : Path) (d : Place) : Prop where
  accepts : Accepts p
  leads : ∃ k, k ≤ linkLimit ∧ t.Leads k (origin start p) (Step.ofPath p) d

theorem leadsTo_of_locate {u : Purpose} (h : t.locate u start p = .ok (.directory d)) :
    t.LeadsTo start p d := by
  obtain ⟨haccepts, hland⟩ := locate_eq_ok_iff.1 h
  exact ⟨haccepts, exists_leads_of_land hland⟩

theorem leadsToDirectory_iff : t.leadsToDirectory start p = true ↔ ∃ d, t.LeadsTo start p d := by
  constructor
  · intro h
    obtain ⟨haccepts, k, d, hk, hleads⟩ := exists_leads_of_leadsToDirectory h
    exact ⟨d, haccepts, k, hk, hleads⟩
  · rintro ⟨d, haccepts, k, hk, hleads⟩
    exact leadsToDirectory_of_leads hleads hk haccepts

theorem LeadsTo.mono (h : t.LeadsTo start p d) (hkeeps : t.KeepsWays t') :
    t'.LeadsTo start p d := by
  obtain ⟨k, hk, hleads⟩ := h.leads
  exact ⟨h.accepts, k, hk, hleads.mono hkeeps⟩

/-- There is a new directory at the address, and one of the paths leads to it. -/
structure MadeOn (t t' : FileTree) (start : Place) (ps : List Path) (a : Address) : Prop where
  missing : t.node? a = none
  made : t'.node? a = some .directory
  on_path : ∃ p ∈ ps, t'.LeadsTo start p (.ofAddress a)

theorem MadeOn.later (h : t.MadeOn t' start ps a) (hkeeps : t'.KeepsWays t'') :
    t.MadeOn t'' start ps a := by
  obtain ⟨p, hp, hleads⟩ := h.on_path
  exact ⟨h.missing, hkeeps h.made (by simp), p, hp, hleads.mono hkeeps⟩

/-- Each node stays, or is a directory that was missing on one of the paths. -/
def AddsDirectoriesOn (t t' : FileTree) (start : Place) (ps : List Path) : Prop :=
  ∀ a, t'.node? a = t.node? a ∨ t.MadeOn t' start ps a

namespace AddsDirectoriesOn

theorem refl (t : FileTree) (start : Place) (ps : List Path) : t.AddsDirectoriesOn t start ps :=
  fun _ => .inl rfl

theorem addsDirectories (h : t.AddsDirectoriesOn t' start ps) : t.AddsDirectories t' := by
  intro a
  obtain heq | hmade := h a
  · exact .inl heq
  · exact .inr ⟨hmade.missing, hmade.made⟩

theorem of_subset (h : t.AddsDirectoriesOn t' start ps) (hps : ps ⊆ qs) :
    t.AddsDirectoriesOn t' start qs := by
  intro a
  obtain heq | ⟨hmissing, hmade, p, hp, hleads⟩ := h a
  · exact .inl heq
  · exact .inr ⟨hmissing, hmade, p, hps hp, hleads⟩

theorem trans (h : t.AddsDirectoriesOn t' start ps) (h' : t'.AddsDirectoriesOn t'' start ps) :
    t.AddsDirectoriesOn t'' start ps := by
  intro a
  obtain heq' | hmade' := h' a
  · obtain heq | hmade := h a
    · exact .inl (heq'.trans heq)
    · exact .inr (hmade.later h'.addsDirectories.keepsWays)
  · obtain heq | hmade := h a
    · exact .inr { hmade' with missing := heq.symm.trans hmade'.missing }
    · have hmissing := hmade'.missing
      rw [hmade.made] at hmissing
      cases hmissing

end AddsDirectoriesOn

theorem addsDirectoriesOn_makeDirectory (h : t.makeDirectory start p = .ok t') :
    t.AddsDirectoriesOn t' start [p] := by
  obtain ⟨a, rfl, hnone, hlocate⟩ := exists_locate_of_makeDirectory h
  have ha : a ≠ [] := by
    rintro rfl
    cases hnone
  intro b
  by_cases hb : b = a
  · subst hb
    exact .inr ⟨hnone, node?_set_self t _ ha, p, List.mem_singleton_self p,
      leadsTo_of_locate hlocate⟩
  · exact .inl (node?_set_of_ne t _ hb)

/-- Making the directories of some paths, also where it fails on the way. -/
theorem addsDirectoriesOn_makeDirectories (t : FileTree) (start : Place) (ps : List Path) :
    t.AddsDirectoriesOn (t.makeDirectories start ps).1 start ps := by
  induction ps with
  | nil => exact .refl t start []
  | cons p above ih =>
      have hlast : ∀ {t₁ t₂ : FileTree}, t₁.makeDirectory start p = .ok t₂ →
          t₁.AddsDirectoriesOn t₂ start (p :: above) := fun h =>
        (addsDirectoriesOn_makeDirectory h).of_subset (by simp)
      have habove := ih.of_subset (List.subset_cons_self p above)
      rw [makeDirectories]
      split
      · exact .refl t start _
      split
      case h_1 hmade => exact hlast hmade
      case h_2 =>
          split
          case h_1 hrest =>
              rw [hrest] at habove
              exact habove
          case h_2 hrest =>
              rw [hrest] at habove
              split
              case h_1 hmade => exact habove.trans (hlast hmade)
              case h_2 => exact habove
      case h_3 => exact .refl t start _

end

end FileTree

namespace State

/-- Writes texts to a sink, one after the other. -/
def writeEach (st : State) (sink : Sink) (ts : List Text) : Except IoError State :=
  ts.foldlM (fun st t => st.write sink t) st

theorem writeEach_cons {st st' : State} {sink : Sink} {t : Text} (h : st.write sink t = .ok st')
    (ts : List Text) : st.writeEach sink (t :: ts) = st'.writeEach sink ts := by
  rw [writeEach, List.foldlM_cons, h]
  rfl

/-- A file takes the texts at its end, and no other is touched. -/
theorem exists_writeEach_file {st : State} {a : Address} {permissions : Nat} {c : Contents}
    (h : st.tree.node? a = some (.file permissions c)) (ts : List Text) :
    ∃ tree, st.writeEach (.target (.file a)) ts = .ok { st with tree := tree } ∧
      tree.node? a = some (.file permissions (c.append ts.flatten)) ∧
      ∀ b, b ≠ a → tree.node? b = st.tree.node? b := by
  induction ts generalizing st c with
  | nil => exact ⟨st.tree, rfl, by rw [List.flatten_nil, Contents.append_nil, h], fun _ _ => rfl⟩
  | cons t ts ih =>
      have hwrite : st.write (.target (.file a)) t = .ok { st with tree := st.tree.appendTo a t } :=
        rfl
      have hgrown : { st with tree := st.tree.appendTo a t }.tree.node? a =
          some (.file permissions (c.append t)) := FileTree.node?_appendTo_self h t
      obtain ⟨tree, hrest, hnode, helse⟩ := ih hgrown
      refine ⟨tree, ?_, ?_, ?_⟩
      · rw [writeEach_cons hwrite, hrest]
      · rw [hnode, Contents.append_append, List.flatten_cons]
      · intro b hb
        rw [helse b hb]
        exact FileTree.node?_appendTo_of_ne st.tree t hb

end State

namespace Redirection

open FileTree

section

variable {t t' : FileTree} {process : Place} {currentDir : Path} {f : Text} {mode : WriteMode}

/-- How far opening a target can come: it is refused, a directory cannot be made, or the
file itself is opened, well or not. -/
theorem openTarget_cases {r : Except TargetError WriteTarget}
    (h : openTarget t process currentDir f mode = (t', r)) :
    (t.leadsToDirectory process (Path.join currentDir f) = true ∧ t' = t ∧
        r = .error (.isDirectory (Path.join currentDir f))) ∨
      t.leadsToDirectory process (Path.join currentDir f) = false ∧
        ∃ t₁, t.AddsDirectoriesOn t₁ process (Path.parents (Path.join currentDir f)) ∧
          ((t' = t₁ ∧ ∃ parent cause, r = .error (.createDirectory parent cause)) ∨
            (t' = t₁ ∧ ∃ cause, r = .error (.opening (Path.join currentDir f) cause)) ∨
            ∃ w, r = .ok w ∧
              t₁.openForWriting process (Path.join currentDir f) mode = .ok (t', w)) := by
  have hfile : ∀ {t₁ : FileTree},
      openTarget.openFile process mode t₁ (Path.join currentDir f) = (t', r) →
        (t' = t₁ ∧ ∃ cause, r = .error (.opening (Path.join currentDir f) cause)) ∨
          ∃ w, r = .ok w ∧
            t₁.openForWriting process (Path.join currentDir f) mode = .ok (t', w) := by
    intro t₁ h
    unfold openTarget.openFile at h
    split at h
    · cases h
      exact .inl ⟨rfl, _, rfl⟩
    case h_2 hopen =>
        cases h
        exact .inr ⟨_, rfl, hopen⟩
  unfold openTarget at h
  dsimp only at h
  split at h
  case isTrue hdirectory =>
      cases h
      exact .inl ⟨hdirectory, rfl, rfl⟩
  case isFalse hdirectory =>
      refine .inr ⟨by simpa using hdirectory, ?_⟩
      split at h
      case h_1 hparent => exact ⟨t, .refl t process _, .inr (hfile h)⟩
      case h_2 parent hparent =>
          have hadds := t.addsDirectoriesOn_makeDirectories process (Path.ancestors parent)
          split at h
          case h_1 hmade =>
              cases h
              rw [show t.makeDirectories process (Path.ancestors parent) = _ from hmade] at hadds
              exact ⟨_, by rwa [Path.parents_of_parent? hparent], .inl ⟨rfl, _, _, rfl⟩⟩
          case h_2 t₁ hmade =>
              rw [show t.makeDirectories process (Path.ancestors parent) = _ from hmade] at hadds
              exact ⟨t₁, by rwa [Path.parents_of_parent? hparent], .inr (hfile h)⟩

theorem openTarget_eq_isDirectory_iff :
    openTarget t process currentDir f mode =
        (t, .error (.isDirectory (Path.join currentDir f))) ↔
      ∃ d, t.LeadsTo process (Path.join currentDir f) d := by
  rw [← leadsToDirectory_iff]
  constructor
  · intro h
    obtain ⟨hdirectory, -⟩ | ⟨-, t₁, -, ⟨-, _, _, hr⟩ | ⟨-, _, hr⟩ | ⟨_, hr, -⟩⟩ :=
      openTarget_cases h
    · exact hdirectory
    all_goals cases hr
  · intro hdirectory
    rcases h : openTarget t process currentDir f mode with ⟨t', r⟩
    obtain ⟨-, rfl, rfl⟩ | ⟨hother, -⟩ := openTarget_cases h
    · rfl
    · rw [hdirectory] at hother
      cases hother

/-- Where no file is opened, nothing but directories is made. -/
theorem addsDirectoriesOn_openTarget {r : Except TargetError WriteTarget}
    (h : openTarget t process currentDir f mode = (t', r)) (hr : ∀ a, r ≠ .ok (.file a)) :
    t.AddsDirectoriesOn t' process (Path.parents (Path.join currentDir f)) := by
  obtain ⟨-, rfl, -⟩ | ⟨-, t₁, hadds, ⟨rfl, -⟩ | ⟨rfl, -⟩ | ⟨w, rfl, hopen⟩⟩ := openTarget_cases h
  · exact .refl t' process _
  · exact hadds
  · exact hadds
  · cases w with
    | file a => exact absurd rfl (hr a)
    | device d =>
        obtain rfl := eq_of_openForWriting_device hopen
        exact hadds

end

end Redirection

namespace FileTree

/-- The file to which the path leads, the one at `a`, has come to hold `c`. It was a regular
file before or nothing, and all else is as it was but for directories that were missing on
the paths above. -/
structure Touches (t t' : FileTree) (start : Place) (p : Path) (a : Address) (permissions : Nat)
    (c : Contents) : Prop where
  before : t.node? a = none ∨ ∃ permissions c', t.node? a = some (.file permissions c')
  after : t'.node? a = some (.file permissions c)
  found : ∃ q m, a = m :: q.address ∧
    t'.locate .find start p = .ok (.occupied q m (.file permissions c))
  elsewhere : ∀ b, b ≠ a → t'.node? b = t.node? b ∨ t.MadeOn t' start (Path.parents p) b

end FileTree

namespace Redirection

open FileTree

theorem exists_touches_of_openTarget {t t' : FileTree} {process : Place} {currentDir : Path}
    {f : Text} {mode : WriteMode} {a : Address}
    (h : openTarget t process currentDir f mode = (t', .ok (.file a))) :
    ∃ permissions, t.Touches t' process (Path.join currentDir f) a permissions
      (mode.openedContents t a) := by
  have hopens := opens_of_openTarget h
  obtain ⟨-, -, hr⟩ | ⟨-, t₁, hadds, ⟨-, _, _, hr⟩ | ⟨-, _, hr⟩ | ⟨w, hw, hopen⟩⟩ :=
    openTarget_cases h
  · cases hr
  · cases hr
  · cases hr
  · cases hw
    obtain ⟨permissions, hafter⟩ := hopens.after
    obtain ⟨q, m, permissions', c, rfl, hfound⟩ :=
      locate_of_openForWriting hopen (by simp : Purpose.find ≠ .entry)
    have hshows : t'.node? (m :: q.address) = some (.file permissions' c) := shows_of_locate hfound
    rw [hafter] at hshows
    cases hshows
    refine ⟨permissions, hopens.before, hafter, ⟨q, m, rfl, hfound⟩, ?_⟩
    intro b hb
    -- The last step leaves all else as the directories were made.
    obtain heq | hmade := hadds b
    · exact .inl ((node?_of_openForWriting_of_ne hopen hb).trans heq)
    · exact .inr (hmade.later (opens_of_openForWriting hopen).keepsWays)

/-- Opening a target is refused with nothing changed exactly if its path leads to a
directory. In every other case but one only directories are made, where they were missing
on the paths above the target. In this one case a regular file has been opened, which is
where the path leads: it holds nothing, or what it held, with what is written then at its
end, and no other file is touched. -/
theorem openTarget_eq_isDirectory_iff_and_touches (t : FileTree) (process : Place)
    (currentDir : Path) (f : Text) (mode : WriteMode) :
    (openTarget t process currentDir f mode =
        (t, .error (.isDirectory (Path.join currentDir f))) ↔
      ∃ d, t.LeadsTo process (Path.join currentDir f) d) ∧
    (∀ t' r, openTarget t process currentDir f mode = (t', r) → (∀ a, r ≠ .ok (.file a)) →
      t.AddsDirectoriesOn t' process (Path.parents (Path.join currentDir f))) ∧
    ∀ t' a, openTarget t process currentDir f mode = (t', .ok (.file a)) →
      ∃ permissions, t.Touches t' process (Path.join currentDir f) a permissions
          (mode.openedContents t a) ∧
        ∀ st : State, st.tree = t' → ∀ ts, ∃ tree,
          st.writeEach (.target (.file a)) ts = .ok { st with tree := tree } ∧
          tree.node? a =
            some (.file permissions ((mode.openedContents t a).append ts.flatten)) ∧
          ∀ b, b ≠ a → tree.node? b = t'.node? b := by
  refine ⟨openTarget_eq_isDirectory_iff, fun _ _ => addsDirectoriesOn_openTarget, ?_⟩
  intro t' a h
  obtain ⟨permissions, htouches⟩ := exists_touches_of_openTarget h
  refine ⟨permissions, htouches, ?_⟩
  rintro st rfl ts
  exact State.exists_writeEach_file htouches.after ts

/-- Through directories that are made and left again, to the file behind a link; and into
that file as if it were a directory, where the last directory cannot be made. -/
theorem openTarget_touches_behind_link :
    let log : Address := ["log".toList, "d".toList]
    let t : FileTree := ⟨[(["d".toList], .directory), (log, .file 0o600 (.text ['a'])),
      (["l".toList], .link "d/log".toList)]⟩
    (∃ t', openTarget t .root ['/'] "n/m/../../l".toList .append = (t', .ok (.file log)) ∧
      t.MadeOn t' .root (Path.parents "/n/m/../../l".toList) ["m".toList, "n".toList] ∧
      ∀ st : State, st.tree = t' →
        ∃ st', st.writeEach (.target (.file log)) [['b'], ['c']] = .ok st' ∧
          ∃ permissions, st'.tree.node? log = some (.file permissions (.text ['a', 'b', 'c']))) ∧
    ∃ t' e, openTarget t .root ['/'] "n/../l/x".toList .truncate = (t', .error e) ∧
      t.MadeOn t' .root (Path.parents "/n/../l/x".toList) ["n".toList] ∧
      t'.node? log = t.node? log := by
  intro log t
  constructor
  · obtain ⟨t', ht'⟩ : ∃ t', (openTarget t .root ['/'] "n/m/../../l".toList .append).1 = t' :=
      ⟨_, rfl⟩
    have hresult : (openTarget t .root ['/'] "n/m/../../l".toList .append).2 = .ok (.file log) := by
      decide +kernel
    have hmade : t'.node? ["m".toList, "n".toList] = some .directory := by
      subst ht'
      decide +kernel
    have hopen : openTarget t .root ['/'] "n/m/../../l".toList .append = (t', .ok (.file log)) :=
      Prod.ext_iff.2 ⟨ht', hresult⟩
    obtain ⟨-, -, hopened⟩ := openTarget_eq_isDirectory_iff_and_touches t .root ['/']
      "n/m/../../l".toList .append
    obtain ⟨permissions, htouches, hwrites⟩ := hopened t' log hopen
    refine ⟨t', hopen, ?_, ?_⟩
    · obtain hsame | hnew := htouches.elsewhere ["m".toList, "n".toList] (by decide)
      · rw [hmade] at hsame
        cases hsame
      · exact hnew
    · intro st hst
      obtain ⟨tree, hwrite, hnode, -⟩ := hwrites st hst [['b'], ['c']]
      exact ⟨_, hwrite, permissions, hnode⟩
  · obtain ⟨t', ht'⟩ : ∃ t', (openTarget t .root ['/'] "n/../l/x".toList .truncate).1 = t' :=
      ⟨_, rfl⟩
    have hresult : (openTarget t .root ['/'] "n/../l/x".toList .truncate).2 =
        .error (.createDirectory "/n/../l".toList (.os .alreadyExists)) := by
      decide +kernel
    have hmade : t'.node? ["n".toList] = some .directory := by
      subst ht'
      decide +kernel
    have hopen : openTarget t .root ['/'] "n/../l/x".toList .truncate = (t', .error _) :=
      Prod.ext_iff.2 ⟨ht', hresult⟩
    obtain ⟨-, hfailed, -⟩ := openTarget_eq_isDirectory_iff_and_touches t .root ['/']
      "n/../l/x".toList .truncate
    have hadds := hfailed t' _ hopen (by simp)
    refine ⟨t', _, hopen, ?_, ?_⟩
    · obtain hsame | hnew := hadds ["n".toList]
      · rw [hmade] at hsame
        cases hsame
      · exact hnew
    · obtain hsame | hnew := hadds log
      · exact hsame
      · cases hnew.missing

end Redirection

end CommandShell
