import CommandShell.Probe
import CommandShell.Proofs.Lookup.SearchPath
import CommandShell.Proofs.Program.Search
import CommandShell.Proofs.Shell.WorkingDirectory

/-!
# What is found is what runs

The shell looks a name up along its search path and hands over the path of the file. When
the program is started, a path with a separator is taken as it is, but one without is
looked up again, along the search path that the program will have. The shell finds such a
path only at an empty element of its search path, or if it has none at all: the path is
then the name itself, in the current directory.

So the second search matters for those names alone. Along the same search path it comes
to the same file, unless the way to a candidate in front is blocked; without a search path
it only sees the directories that are usual on the system, and the file that was found is
not started.

The main statement is `Shell.startIn_and_run_of_dispatch`.
-/

namespace CommandShell

namespace FileTree

/-- One more separator between a directory and a name leads to the same. -/
theorem locate_join {t : FileTree} {u : Purpose} {start : Place} {d p : Path} {l : Landing}
    (hd : d ≠ []) (hsep : '/' ∉ p) (h : t.locate u start (d ++ '/' :: p) = .ok l) :
    t.locate u start (Path.join d p) = .ok l := by
  obtain hjoin | ⟨e, hbetween, hjoin⟩ :=
    Path.join_eq_or hd (Path.isAbsolute_eq_false_of_not_mem hsep)
  · rwa [hjoin]
  · rw [hbetween] at h
    rw [hjoin]
    obtain ⟨haccepts, hland⟩ := locate_eq_ok_iff.1 h
    rw [origin_append_separators, Step.ofPath_append_separators] at hland
    refine locate_eq_ok_iff.2 ⟨⟨?_, by simp, ?_⟩, hland⟩
    · have hnul := haccepts.no_nul
      simp only [List.mem_append, List.mem_cons, not_or] at hnul ⊢
      exact ⟨hnul.1, hnul.2.1, hnul.2.2.2⟩
    · have hlength := haccepts.length
      simp only [Text.utf8Size_append, Text.utf8Size_cons] at hlength ⊢
      omega

/-- So a name that is no file to execute behind the one is none behind the other. -/
theorem leadsToExecutable_of_join {t : FileTree} {start : Place} {d p : Path} (hd : d ≠ [])
    (hsep : '/' ∉ p) (h : t.leadsToExecutable start (Path.join d p) = false) :
    t.leadsToExecutable start (d ++ '/' :: p) = false := by
  unfold leadsToExecutable nodeAt? at h ⊢
  rcases hlocate : t.locate .find start (d ++ '/' :: p) with e | l
  · rfl
  · rw [locate_join hd hsep hlocate] at h
    exact h

end FileTree

namespace Lookup

open FileTree

/-- A path without a separator is a name that was found at an empty element of the search
path. -/
theorem exists_of_command? {t : FileTree} {process : Place} {searchPath : Text}
    {currentDir name p : Path} (hcurrent : Path.isAbsolute currentDir = true)
    (h : command? t process searchPath currentDir name = some p) (hp : '/' ∉ p) :
    t.leadsToExecutable process p = true ∧
      ∃ front back, Text.pieces ':' searchPath = front ++ [] :: back ∧
        ∀ d ∈ front, d ≠ [] ∧ t.leadsToExecutable process (Path.join d p) = false := by
  have hatPath : ∀ q, Path.isAbsolute q = true → atPath t process q ≠ some p := by
    intro q hq hsome
    obtain ⟨rfl, -⟩ := atPath_eq_some_iff.1 hsome
    exact hp (Path.mem_of_isAbsolute hq)
  obtain habsolute | rfl | ⟨x, hrelative, hx⟩ | ⟨hrelative, hne, hx⟩ := name_cases name
  · rw [command?_of_isAbsolute habsolute] at h
    exact absurd h (hatPath name habsolute)
  · cases h
  · rw [command?_of_components hrelative hx] at h
    obtain ⟨front, d, back, hjoin, hcolon, rfl, hexec, hfront⟩ := alongSearchPath_eq_some_iff.1 h
    obtain rfl : d = [] := by
      by_contra hne
      exact hp (Path.mem_join hne x)
    rw [Path.join_nil_left] at hexec ⊢
    have hpieces := (Text.pieces_eq_iff (by simp)).2 ⟨hjoin, hcolon⟩
    refine ⟨leadsToExecutable_iff.2 hexec, front, back, hpieces, ?_⟩
    intro e he
    refine ⟨?_, ?_⟩
    · rintro rfl
      have hother := hfront [] he
      rw [Path.join_nil_left] at hother
      exact hother hexec
    · exact Bool.eq_false_iff.2 fun hother => hfront e he (leadsToExecutable_iff.1 hother)
  · rw [command?_of_ne hrelative hne hx] at h
    exact absurd h (hatPath _ (Path.isAbsolute_join hcurrent))

end Lookup

namespace ProgramCall

/-- The current directory of the shell is entered where the process is. -/
theorem enter_currentDir {st : State} (hst : st.Settled) (hnul : '\x00' ∉ st.env.currentDir)
    (hlength : Text.utf8Size st.env.currentDir < FileTree.pathLimit) :
    enter st.tree st.workDir st.env.currentDir = .ok st.workDir := by
  have hin := hst.inStep
  have hne : st.env.currentDir ≠ [] := by
    intro hnil
    have habsolute := hin.absolute
    rw [hnil] at habsolute
    cases habsolute
  have hwalk : FileTree.land st.tree .find FileTree.linkLimit
      (FileTree.origin st.workDir st.env.currentDir) (Step.ofPath st.env.currentDir) =
      .ok (.directory st.workDir) := by
    rw [FileTree.origin_of_isAbsolute hin.absolute, ← hin.walk]
    exact FileTree.land_eq_of_le (Nat.zero_le _) (by simp [hin.walk])
  rw [enter, FileTree.locate_eq_ok_iff.2 ⟨⟨hnul, hne, hlength⟩, hwalk⟩]

/-- Nothing about the start of the program exceeds what the system takes. -/
structure Fits (c : ProgramCall) (st : State) : Prop where
  nulFree : ∀ t ∈ c.program :: st.env.currentDir :: (c.name :: c.args) ++ st.programAssignments,
    '\x00' ∉ t
  directory : Text.utf8Size st.env.currentDir < FileTree.pathLimit
  arguments : ∀ t ∈ (c.name :: c.args) ++ st.programAssignments,
    Text.utf8Size t < argumentLimit

/-- The search path that the program will have. -/
def programSearchPath (pf : Platform) (st : State) : Text :=
  (Variables.inBlock? st.programAssignments Environment.pathVariable).getD
    pf.defaultSearchPath

/-- What starts for a file, as it is found from the directory of the process. -/
def startFile (c : ProgramCall) (st : State) (busy : List Address) (p : Path) :
    Except IoError Startup :=
  startAt st.tree st.workDir busy st.programAssignments (c.name :: c.args)
    (st.env.vars.get? Environment.pathVariable).isSome p

/-- What starts for the program, as it is looked for from there. -/
def startInPlace (c : ProgramCall) (pf : Platform) (st : State) (busy : List Address) :
    Except IoError Startup :=
  startup pf st.tree st.workDir busy st.programAssignments (c.name :: c.args)
    (st.env.vars.get? Environment.pathVariable).isSome c.program

/-- The start comes to the file that was found: it is taken as it is, or the search comes to
one that starts in the same way. -/
def IsFoundAgain (c : ProgramCall) (pf : Platform) (st : State) (busy : List Address)
    (s : Startup) : Prop :=
  '/' ∈ c.program ∨
    Reaches (c.startFile st busy) s (searchCandidates (programSearchPath pf st) c.program)

section

variable {c : ProgramCall} {st : State} {busy : List Address} {id : Nat} {appended : Text}

theorem Fits.arguments_any (h : c.Fits st) :
    ((c.name :: c.args) ++ st.programAssignments).any
      (argumentLimit ≤ Text.utf8Size ·) = false := by
  refine List.any_eq_false.2 ?_
  intro t ht
  simpa using h.arguments t ht

/-- The start of a program that fits is the start of its file. -/
theorem Fits.startIn_eq (hst : st.Settled) (h : c.Fits st) (pf : Platform) :
    c.startIn pf st busy = (c.startInPlace pf st busy).map fun s => (st.workDir, s) := by
  have hcurrent : '\x00' ∉ st.env.currentDir := h.nulFree _ (by simp)
  have hnul : ¬ (c.program :: st.env.currentDir :: (c.name :: c.args) ++
      st.programAssignments).any (·.contains '\x00') = true := by
    intro hany
    obtain ⟨t, ht, hmem⟩ := List.any_eq_true.1 hany
    exact h.nulFree t ht (by simpa using hmem)
  unfold startIn
  dsimp only
  rw [if_neg hnul, enter_currentDir hst hcurrent h.directory]
  rfl

theorem fits_of_startIn {pf : Platform} {r : Place × Startup}
    (h : c.startIn pf st busy = .ok r) : c.Fits st := by
  unfold startIn at h
  dsimp only at h
  split at h
  · cases h
  case isFalse hnul =>
  split at h
  · cases h
  case h_2 place henter =>
      have hnulFree : ∀ t ∈ c.program :: st.env.currentDir :: (c.name :: c.args) ++
          st.programAssignments, '\x00' ∉ t :=
        fun t ht hmem => hnul (List.any_eq_true.2 ⟨t, ht, by simpa using hmem⟩)
      refine ⟨hnulFree, length_of_enter henter, ?_⟩
      rcases hstartup : startup pf st.tree place busy st.programAssignments (c.name :: c.args)
        (st.env.vars.get? Environment.pathVariable).isSome c.program with e | s
      · rw [hstartup] at h
        cases h
      · intro t ht
        simpa using List.any_eq_false.1 (fits_of_startup hstartup) t ht

theorem startInPlace_eq_ok_iff (h : c.Fits st)
    (hfile : executableAt st.tree st.workDir busy c.program = .ok (.program id appended))
    (pf : Platform) :
    c.startInPlace pf st busy = .ok ⟨.program id, c.name :: c.args⟩ ↔
      c.IsFoundAgain pf st busy ⟨.program id, c.name :: c.args⟩ := by
  unfold startInPlace startup IsFoundAgain
  by_cases hsep : '/' ∈ c.program
  · simp only [hsep, if_true, true_or, iff_true]
    exact startAt_of_program hfile h.arguments_any false
  · have hsize := utf8Size_le_of_executableAt hfile hsep
    simp only [hsep, if_false, if_neg (Nat.not_lt.2 hsize), false_or]
    exact startAmong_eq_ok_iff

/-- A file that was found starts if the system takes the start as such and it is found
again. -/
theorem startIn_eq_ok_iff (hst : st.Settled)
    (hfile : executableAt st.tree st.workDir busy c.program = .ok (.program id appended))
    (pf : Platform) :
    c.startIn pf st busy = .ok (st.workDir, ⟨.program id, c.name :: c.args⟩) ↔
      c.Fits st ∧ c.IsFoundAgain pf st busy ⟨.program id, c.name :: c.args⟩ := by
  constructor
  · intro h
    have hfits := fits_of_startIn h
    refine ⟨hfits, (startInPlace_eq_ok_iff hfits hfile pf).1 ?_⟩
    rw [hfits.startIn_eq hst] at h
    rcases hstart : c.startInPlace pf st busy with e | s
    · rw [hstart] at h
      cases h
    · rw [hstart] at h
      cases h
      rfl
  · rintro ⟨hfits, hfound⟩
    rw [hfits.startIn_eq hst, (startInPlace_eq_ok_iff hfits hfile pf).2 hfound]
    rfl

end

theorem mem_of_mem_elementsInFront {front back : List Text} {d : Text}
    (h : d ∈ elementsInFront (front ++ [] :: back)) : d ∈ front := by
  rw [elementsInFront, List.takeWhile_append] at h
  split at h
  · simpa using h
  · exact (List.takeWhile_prefix _).subset h

theorem exists_of_inBlock? {block : List Text} {name value : Text}
    (h : Variables.inBlock? block name = some value) :
    ∃ assignment ∈ block, assignment = name ++ '=' :: value := by
  unfold Variables.inBlock? at h
  split at h
  · cases h
  · obtain ⟨front, assignment, back, rfl, hvalue, -⟩ := List.findSome?_eq_some_iff.1 h
    refine ⟨assignment, by simp, ?_⟩
    rw [Text.after?_eq_some_iff.1 hvalue]
    simp

/-- Along the search path of the shell itself, a name is found again if nothing blocks the
way to the candidates in front of the first empty element. -/
theorem isFoundAgain_iff {st : State} {name : Text} {args : List Text} {c : ProgramCall}
    (hst : st.Settled) (hc : Shell.program? st name args = some c) (hfits : c.Fits st)
    {busy : List Address} {id : Nat} {appended : Text}
    (hfile : executableAt st.tree st.workDir busy c.program = .ok (.program id appended))
    (hsame : Variables.inBlock? st.programAssignments Environment.pathVariable =
      some (st.env.searchPath st.inherited)) (hsep : '/' ∉ c.program) (pf : Platform) :
    c.IsFoundAgain pf st busy ⟨.program id, c.name :: c.args⟩ ↔
      ∀ d ∈ elementsInFront (Text.pieces ':' (st.env.searchPath st.inherited)),
        ¬ st.tree.Blocks st.workDir (d ++ '/' :: c.program) := by
  obtain ⟨p, hp, rfl⟩ := Option.map_eq_some_iff.1 hc
  obtain ⟨hexec, front, back, hpieces, hfront⟩ :=
    Lookup.exists_of_command? hst.inStep.absolute hp hsep
  have hnul : '\x00' ∉ st.env.searchPath st.inherited := by
    intro hmem
    obtain ⟨assignment, hblock, heq⟩ := exists_of_inBlock? hsame
    refine hfits.nulFree assignment (List.mem_append_right _ hblock) ?_
    rw [heq]
    exact List.mem_append_right _ (List.mem_cons_of_mem _ hmem)
  have helse : ∀ d ∈ elementsInFront (Text.pieces ':' (st.env.searchPath st.inherited)),
      st.tree.leadsToExecutable st.workDir (d ++ '/' :: p) = false := by
    intro d hd
    rw [hpieces] at hd
    obtain ⟨hnil, hother⟩ := hfront d (mem_of_mem_elementsInFront hd)
    exact FileTree.leadsToExecutable_of_join hnil hsep hother
  have hempty : [] ∈ Text.pieces ':' (st.env.searchPath st.inherited) := by
    rw [hpieces]
    exact List.mem_append_right _ List.mem_cons_self
  have hstart : startFile ⟨name, p, args⟩ st busy p = .ok ⟨.program id, name :: args⟩ :=
    startAt_of_program hfile hfits.arguments_any _
  have hpath : programSearchPath pf st = st.env.searchPath st.inherited := by
    rw [programSearchPath, hsame, Option.getD_some]
  unfold IsFoundAgain
  rw [hpath]
  simp only [hsep, false_or]
  exact reaches_searchCandidates_iff hstart hempty hnul (hfits.nulFree p (by simp)) helse

/-- Where none of the files that are tried is there, the program does not start. -/
theorem startIn_of_forall_notFound {st : State} {c : ProgramCall} (hst : st.Settled)
    (hfits : c.Fits st) {busy : List Address} {contents : Contents}
    (hfile : executableAt st.tree st.workDir busy c.program = .ok contents)
    (hsep : '/' ∉ c.program) {pf : Platform}
    (h : ∀ p ∈ searchCandidates (programSearchPath pf st) c.program,
      executableAt st.tree st.workDir busy p = .error (.os .notFound)) :
    c.startIn pf st busy = .error (.os .notFound) := by
  have hsize := utf8Size_le_of_executableAt hfile hsep
  have hstart : c.startInPlace pf st busy = .error (.os .notFound) := by
    rw [startInPlace, startup, if_neg hsep, if_neg (Nat.not_lt.2 hsize)]
    exact startAmong_of_forall_notFound fun p hp => startAt_of_error (h p hp)
  rw [hfits.startIn_eq hst, hstart]
  rfl

end ProgramCall

namespace Shell

open ProgramCall

/-- A program that the shell has found runs if the start as such fits and the file is found
again, and only then; it is started with the name and the arguments, in the current
directory, once its streams were flushed. With a separator in its path it always starts if it
fits. Without one it starts along the same search path unless the way to a candidate in front
is blocked; where there is no search path it is missing, if it is not in one of the usual
directories. -/
theorem startIn_and_run_of_dispatch {sh : Shell} {st : State} (hst : st.Settled) {name : Text}
    {args : List Text} {c : ProgramCall}
    (hdispatch : sh.dispatch st (name :: args) = .ok (.program c)) {streams : Streams}
    {held : List Address} {id : Nat} {appended : Text}
    (hfile : executableAt st.tree st.workDir (streams.files ++ held) c.program =
      .ok (.program id appended)) (pf : Platform) :
    let busy := streams.files ++ held
    let started : Place × Startup := (st.workDir, ⟨.program id, name :: args⟩)
    let i := (invocation st streams.input started).2
    let o := pf.run id i
    let searchPath := Variables.inBlock? st.programAssignments Environment.pathVariable
    (c.startIn pf st busy = .ok started ↔
      c.Fits st ∧ c.IsFoundAgain pf st busy started.2) ∧
    (c.startIn pf st busy = .ok started →
      i.argv = name :: args ∧ i.workDir = some st.env.currentDir ∧
        (st.flush [streams.out, streams.err] = .ok () →
          c.run pf held streams st =
            ((afterRun st streams o).note (.finishedProgram c.program o.status),
              .ok o.status.code))) ∧
    ('/' ∈ c.program → c.Fits st → c.startIn pf st busy = .ok started) ∧
    ('/' ∉ c.program → c.Fits st → searchPath = some (st.env.searchPath st.inherited) →
      (c.startIn pf st busy = .ok started ↔
        ∀ d ∈ elementsInFront (Text.pieces ':' (st.env.searchPath st.inherited)),
          ¬ st.tree.Blocks st.workDir (d ++ '/' :: c.program))) ∧
    ('/' ∉ c.program → c.Fits st → searchPath = none →
      (∀ p ∈ searchCandidates pf.defaultSearchPath c.program,
        executableAt st.tree st.workDir busy p = .error (.os .notFound)) →
      st.flush [streams.out, streams.err] = .ok () →
      c.run pf held streams st = (st, .error (.spawn name (.os .notFound)))) ∧
    ∀ e, st.flush [streams.out, streams.err] = .error e →
      c.run pf held streams st = (st, .error (.io e)) := by
  intro busy started i o searchPath
  have hc : program? st name args = some c := by
    obtain ⟨name', args', hargv, ⟨action, hbuiltin, -⟩ | ⟨c', hprogram, -, hc⟩⟩ :=
      dispatch_cases hdispatch
    · cases hbuiltin
    · cases hargv
      cases hprogram
      exact hc
  obtain ⟨p, -, rfl⟩ := Option.map_eq_some_iff.1 hc
  have hstarted := startIn_eq_ok_iff hst hfile pf
  refine ⟨hstarted, ?_, ?_, ?_, ?_, ?_⟩
  · intro hstart
    refine ⟨rfl, hst.path, ?_⟩
    intro hflush
    rw [run_eq, hflush, hstart]
    rfl
  · intro hsep hfits
    exact hstarted.2 ⟨hfits, .inl hsep⟩
  · intro hsep hfits hsame
    have hfound := isFoundAgain_iff hst hc hfits hfile hsame hsep pf
    rw [← hfound]
    exact ⟨fun hstart => (hstarted.1 hstart).2, fun hfound => hstarted.2 ⟨hfits, hfound⟩⟩
  · intro hsep hfits hnone hmissing hflush
    have hpath : programSearchPath pf st = pf.defaultSearchPath := by
      have hunset : Variables.inBlock? st.programAssignments Environment.pathVariable =
        none := hnone
      rw [programSearchPath, hunset, Option.getD_none]
    rw [← hpath] at hmissing
    rw [run_eq, hflush, startIn_of_forall_notFound hst hfits hfile hsep hmissing]
    rfl
  · intro e hflush
    rw [run_eq, hflush]

/-- Behind a directory of the same name, which is passed over. -/
theorem run_of_dispatch_behind_directory :
    let sh : Shell := ⟨.standard, Probe.platform⟩
    let st := sh.start ⟨[(["d".toList], .directory), (["tool".toList, "d".toList], .directory),
      (["tool".toList], .file 0o755 (.program 0 []))]⟩ .root ⟨[("PATH".toList, "d:".toList)]⟩ []
    let c : ProgramCall := ⟨"tool".toList, "tool".toList, ["argv".toList]⟩
    sh.dispatch st ["tool".toList, "argv".toList] = .ok (.program c) ∧
      (c.run Probe.platform [] .own st).2 = .ok 0 ∧
      (c.run Probe.platform [] .own st).1.output .out = "[0]=tool\n[1]=argv\n".toList := by
  intro sh st c
  have hroot : st.tree.HasDirectory [] := trivial
  have hst : st.Settled := sh.settled_start hroot _ _ _ _
  have hdispatch : sh.dispatch st ["tool".toList, "argv".toList] = .ok (.program c) :=
    dispatch_of_program? rfl (by decide +kernel)
  have hfile : executableAt st.tree st.workDir (Streams.own.files ++ []) c.program =
      .ok (.program 0 []) := by decide +kernel
  have hfits : c.Fits st := ⟨by decide +kernel, by decide +kernel, by decide +kernel⟩
  obtain ⟨-, hrun, -, hsame, -⟩ :=
    startIn_and_run_of_dispatch hst hdispatch hfile Probe.platform
  have hclear : ∀ d ∈ elementsInFront (Text.pieces ':' (st.env.searchPath st.inherited)),
      ¬ st.tree.Blocks st.workDir (d ++ '/' :: c.program) := by
    simp only [FileTree.Blocks]
    decide +kernel
  have hstart := (hsame (by decide) hfits (by decide +kernel)).2 hclear
  obtain ⟨-, -, hflushed⟩ := hrun hstart
  have heq := hflushed (by decide +kernel)
  refine ⟨hdispatch, ?_, ?_⟩
  · rw [heq]
    decide +kernel
  · rw [heq]
    decide +kernel

/-- Without a search path the shell finds a file of the current directory, which is not
started. -/
theorem run_of_dispatch_without_searchPath :
    let sh : Shell := ⟨.standard, Probe.platform⟩
    let st := sh.start ⟨[(["tool".toList], .file 0o755 (.program 0 []))]⟩ .root ⟨[]⟩ []
    let c : ProgramCall := ⟨"tool".toList, "tool".toList, ["out:x".toList]⟩
    st.Settled ∧ sh.dispatch st ["tool".toList, "out:x".toList] = .ok (.program c) ∧
      executableAt st.tree st.workDir [] c.program = .ok (.program 0 []) ∧
      c.run Probe.platform [] .own st =
        (st, .error (.spawn "tool".toList (.os .notFound))) := by
  intro sh st c
  have hroot : st.tree.HasDirectory [] := trivial
  refine ⟨sh.settled_start hroot _ _ _ _, dispatch_of_program? rfl ?_, ?_, ?_⟩
  · decide +kernel
  · decide +kernel
  · decide +kernel

end Shell

end CommandShell
