import CommandShell.Proofs.FileTree.Reopening
import CommandShell.Proofs.Shell.Turn

/-!
# The shell and its process are in one directory

The current directory of the shell is a path, that of the process is a place in the file
tree. They start as one (`State.Settled`), and stay one under every line: a line keeps
both together with the directories above them, or it is a `cd` that went through, which
sets both to where its target led. What that says about the path is `State.InStep`.

The main statement is `Shell.inStep_runLines`.
-/

namespace CommandShell

theorem ChangeDirectory.directoryAt_eq_ok_iff {t : FileTree} {start place : Place} {shown : Text}
    {p path : Path} :
    directoryAt t start shown p = .ok (place, path) ↔
      t.resolve? start p = some (.directory place) ∧ place.path? = some path ∧
        t.leadsToDirectory start path = true := by
  unfold directoryAt
  constructor
  · intro h
    split at h
    case h_1 => cases h
    case h_2 landing hresolve =>
        split at h
        case h_1 => cases h
        case h_2 hcanonical =>
            obtain ⟨hpath, -⟩ := Option.filter_eq_some_iff.1 hcanonical
            split at h
            case h_1 =>
                split at h
                case isTrue hleads =>
                    cases h
                    exact ⟨hresolve, hpath, hleads⟩
                case isFalse => cases h
            case h_2 => cases h
  · rintro ⟨hresolve, hpath, hleads⟩
    have hcanonical : (Landing.directory place).canonicalPath? = some path :=
      Option.filter_eq_some_iff.2
        ⟨hpath, by simpa using (FileTree.exists_leads_of_leadsToDirectory hleads).1.length⟩
    simp only [hresolve, hcanonical, hleads, if_true]

/-- Where `cd` goes is a directory of the tree, and the path that it takes over is its
path. -/
theorem ChangeDirectory.of_directoryAt {t : FileTree} {start place : Place} {shown : Text}
    {p path : Path} (h : directoryAt t start shown p = .ok (place, path))
    (hstart : t.HasPlace start) : t.HasPlace place ∧ place.path? = some path := by
  obtain ⟨hresolve, hpath, -⟩ := directoryAt_eq_ok_iff.1 h
  exact ⟨FileTree.hasPlace_of_resolve? hstart hresolve, hpath⟩

namespace State

/-- The process is in a directory of the tree, and its path is the current directory. -/
structure Settled (st : State) : Prop where
  place : st.tree.HasPlace st.workDir
  path : st.workDir.path? = some st.env.currentDir

theorem Settled.of_stays {st st' : State} (h : st.Settled) (hstays : st.Stays st') :
    st'.Settled := by
  constructor
  · rw [hstays.workDir]
    exact ⟨h.place.lost, h.place.directory.mono hstays.directories⟩
  · rw [hstays.workDir, hstays.env]
    exact h.path

theorem Settled.of_turns {st st' : State} (h : st.Settled) {streams : Streams}
    {argv : List Text} {result : Except LineError ExitCode}
    (hturns : st.Turns streams argv st' result) : st'.Settled := by
  cases hturns with
  | stays hstays => exact h.of_stays hstays
  | moves hargs hgoal hend =>
      unfold ChangeDirectory.goal at hgoal
      split at hgoal
      · cases hgoal
      · obtain ⟨hplace, hpath⟩ := ChangeDirectory.of_directoryAt hgoal h.place
        exact ⟨hplace, hpath⟩
  | asks hargs hend => exact ⟨h.place, h.path⟩

/-- The current directory of the shell is the directory of the process. Its path is
absolute, has no step that stays or goes up, and leads there without a link; and there is
a directory at the end of it and everywhere on its way. -/
structure InStep (st : State) : Prop where
  path : st.workDir.path? = some st.env.currentDir
  absolute : Path.isAbsolute st.env.currentDir = true
  plain : ∀ piece ∈ Text.pieces '/' st.env.currentDir, piece ≠ ['.'] ∧ piece ≠ ['.', '.']
  directories : ∀ a, a <:+ st.workDir.address → st.tree.node? a = some .directory
  walk : FileTree.land st.tree .find 0 .root (Step.ofPath st.env.currentDir) =
    .ok (.directory st.workDir)

theorem Settled.inStep {st : State} (h : st.Settled) : st.InStep := by
  have hdirectory := h.place.directory
  have hplace := h.place.eq_ofAddress
  have hpath : st.env.currentDir = st.workDir.address.path := by
    have hsome := h.path
    rw [hplace, Place.path?_ofAddress] at hsome
    exact (Option.some.inj hsome).symm
  constructor
  · exact h.path
  · rw [hpath]
    exact FileTree.isAbsolute_path _
  · intro piece hpiece
    rw [hpath] at hpiece
    exact hdirectory.plain_of_mem_pieces hpiece
  · intro a ha
    exact hdirectory.node?_eq ha
  · rw [hpath, FileTree.land_path hdirectory, ← hplace]

/-- A command that does not end with status zero has not moved, or its streams could not be
flushed behind the move. -/
theorem Turns.workDir_eq_and_currentDir_eq_or_flush {st st' : State} {streams : Streams}
    {argv : List Text} {result : Except LineError ExitCode}
    (h : st.Turns streams argv st' result) (hresult : result ≠ .ok 0) :
    (st'.workDir = st.workDir ∧ st'.env.currentDir = st.env.currentDir) ∨
      ∃ cause, st.flush [streams.out, streams.err] = .error cause ∧
        result = .error (.io cause) := by
  cases h with
  | stays hstays => exact .inl ⟨hstays.workDir, congrArg Environment.currentDir hstays.env⟩
  | moves hargs hgoal hend => exact .inr (hend.resolve_left hresult)
  | asks hargs hend => exact .inl ⟨rfl, rfl⟩

end State

namespace Shell

theorem settled_start (sh : Shell) {tree : FileTree} {a : Address} (h : tree.HasDirectory a)
    (inherited : Variables) (input : Text) (standard : StandardStreams)
    (barred : List (Address × OsError)) :
    (sh.start tree (.ofAddress a) inherited input standard barred).Settled :=
  ⟨⟨rfl, h⟩, rfl⟩

section

variable {sh : Shell} (hsh : sh.builtins.OfBuiltins)
include hsh

theorem settled_runLine {st : State} (h : st.Settled) (line : Text) (streams : Streams) :
    (sh.runLine line streams st).1.Settled := by
  obtain ⟨c, -, s, hs, -, hturns⟩ | hstays := turns_runLine hsh line streams st
  · exact (h.of_stays hs).of_turns hturns
  · exact h.of_stays hstays

theorem settled_runLines {st : State} (h : st.Settled) (lines : List (Text × Streams)) :
    (sh.runLines lines st).Settled := by
  induction lines generalizing st with
  | nil => exact h
  | cons l lines ih => exact ih (settled_runLine hsh h l.1 l.2)

theorem workDir_eq_and_currentDir_eq_or_flush_of_runLine {line : Text} {streams : Streams}
    {st st' : State} {result : Except LineError ExitCode}
    (h : sh.runLine line streams st = (st', result)) (hresult : result ≠ .ok 0) :
    (st'.workDir = st.workDir ∧ st'.env.currentDir = st.env.currentDir) ∨
      ∃ cause, st.flush [streams.out, streams.err] = .error cause ∧
        result = .error (.io cause) := by
  have hline := turns_runLine hsh line streams st
  rw [h] at hline
  obtain ⟨c, -, s, hs, hstandard, hturns⟩ | hstays := hline
  · rw [← hs.workDir, ← hs.env, ← State.flush_of_standard_eq hstandard]
    exact hturns.workDir_eq_and_currentDir_eq_or_flush hresult
  · exact .inl ⟨hstays.workDir, congrArg Environment.currentDir hstays.env⟩

end

/-- If the standard shell starts in a directory of the tree, then after any lines its
current directory is the directory of the process, by a path without links, whatever the
system refuses. And a line that does not end with status zero, a `cd` or another, leaves both,
unless it fails because its streams cannot be flushed. -/
theorem inStep_runLines (pf : Platform) {tree : FileTree} {a : Address} (h : tree.HasDirectory a)
    {inherited : Variables} {input : Text} {standard : StandardStreams}
    {barred : List (Address × OsError)} {lines : List (Text × Streams)} {st : State}
    (hst : runLines ⟨.standard, pf⟩ lines
      (start ⟨.standard, pf⟩ tree (.ofAddress a) inherited input standard barred) = st) :
    st.InStep ∧ ∀ line streams st' result,
      runLine ⟨.standard, pf⟩ line streams st = (st', result) → result ≠ .ok 0 →
        (st'.workDir = st.workDir ∧ st'.env.currentDir = st.env.currentDir) ∨
          ∃ cause, st.flush [streams.out, streams.err] = .error cause ∧
            result = .error (.io cause) := by
  have hstart := settled_start ⟨.standard, pf⟩ h inherited input standard barred
  have hsettled : st.Settled :=
    hst ▸ settled_runLines CommandTable.ofBuiltins_standard hstart lines
  refine ⟨hsettled.inStep, ?_⟩
  intro line streams st' result hrun hresult
  exact workDir_eq_and_currentDir_eq_or_flush_of_runLine CommandTable.ofBuiltins_standard hrun
    hresult

/-- A `cd` through a link, directories made for a target, and a `cd` to a directory to which the
system does not let the process move. -/
theorem inStep_runLines_link :
    let sh : Shell := ⟨.standard, Probe.platform⟩
    let tree : FileTree := ⟨[(["d".toList], .directory), (["l".toList], .link "d".toList)]⟩
    let barred : List (Address × OsError) :=
      [(["e".toList, "d".toList], .permissionDenied)]
    ∃ st st', sh.runLines [("cd l".toList, .own), ("echo x > e/../e/f".toList, .own)]
        (sh.start tree (.ofAddress []) ⟨[]⟩ [] .taking barred) = st ∧ st.InStep ∧
      st.env.currentDir = "/d".toList ∧ sh.runLine "cd e".toList .own st = (st', .ok 1) ∧
      st'.output .err = "cd: can't chdir to /d/e: Permission denied (os error 13)\n".toList ∧
      st'.env.currentDir = "/d".toList := by
  intro sh tree barred
  -- The states are named, so that each line is run once.
  obtain ⟨st, hst⟩ : ∃ st, sh.runLines [("cd l".toList, .own), ("echo x > e/../e/f".toList, .own)]
      (sh.start tree (.ofAddress []) ⟨[]⟩ [] .taking barred) = st := ⟨_, rfl⟩
  obtain ⟨st', hst'⟩ : ∃ st', (sh.runLine "cd e".toList .own st).1 = st' := ⟨_, rfl⟩
  have hroot : tree.HasDirectory [] := trivial
  obtain ⟨hinStep, hkept⟩ := inStep_runLines Probe.platform hroot hst
  have hdir : st.env.currentDir = "/d".toList := by
    subst hst
    decide +kernel
  have hresult : (sh.runLine "cd e".toList .own st).2 = .ok 1 := by
    subst hst
    decide +kernel
  have htold : st'.output .err =
      "cd: can't chdir to /d/e: Permission denied (os error 13)\n".toList := by
    subst hst hst'
    decide +kernel
  have hcd : sh.runLine "cd e".toList .own st = (st', .ok 1) := Prod.ext hst' hresult
  obtain hstays | ⟨cause, -, hfailed⟩ := hkept _ _ _ _ hcd (by decide)
  · exact ⟨st, st', hst, hinStep, hdir, hcd, htold, hstays.2.trans hdir⟩
  · cases hfailed

/-- Behind a text that a full standard output has kept, a `cd` that fails has moved both. -/
theorem moves_behind_kept_text :
    let sh : Shell := ⟨.standard, Probe.platform⟩
    let st := sh.start ⟨[(["d".toList], .directory)]⟩ (.ofAddress []) ⟨[]⟩ []
      ⟨.refusing .noSpace [], none⟩
    let st' := (sh.runLine "echo -n x".toList .own st).1
    let moved := sh.runLine "cd d".toList .own st'
    moved.2 = .error (.io (.os .noSpace)) ∧ (LineError.io (.os .noSpace)).exitCode = 1 ∧
      st'.workDir = .root ∧ moved.1.workDir = .ofAddress ["d".toList] ∧
      st'.env.currentDir = "/".toList ∧ moved.1.env.currentDir = "/d".toList := by
  decide +kernel

end Shell

end CommandShell
