import CommandShell.Proofs.Command.WellFormed
import CommandShell.Proofs.Shell.Failure

/-!
# Lines and the commands that they run

A line that denotes a command runs it, and one that denotes none leaves all but the log
(`Shell.runLine_cases`). Since commands do not look at the log, what holds of commands
holds of lines: `Shell.Runs` is the run of a command in either form.

Lines are run one behind the other, each with streams of its own, by `Shell.runLines`.
-/

namespace CommandShell

theorem Command.IsDenotedBy.eq {c c' : Command} {line : Text} (h : c.IsDenotedBy line)
    (h' : c'.IsDenotedBy line) : c = c' := by
  obtain ⟨ts, hline, hts⟩ := h
  obtain ⟨ts', hline', hts'⟩ := h'
  obtain rfl : ts = ts' := Except.ok.inj (hline.symm.trans hline')
  exact Option.some.inj (Except.ok.inj (hts.symm.trans hts'))

namespace Shell

theorem dispatch_of_onlyNotes {st st' : State} (h : st.OnlyNotes st') (sh : Shell)
    (argv : List Text) : sh.dispatch st' argv = sh.dispatch st argv := by
  cases argv with
  | nil => rfl
  | cons name args =>
      unfold dispatch program?
      rw [h.env, h.tree, h.workDir, h.inherited]

/-- A name is dispatched to the command that is built in, or else to a program. -/
theorem dispatch_cases {sh : Shell} {st : State} {argv : List Text} {d : Dispatched}
    (h : sh.dispatch st argv = .ok d) :
    ∃ name args, argv = name :: args ∧
      ((∃ action, d = .builtin name action ∧ sh.builtin? st.env name args = some action) ∨
        ∃ c, d = .program c ∧ sh.builtin? st.env name args = none ∧
          program? st name args = some c) := by
  unfold dispatch at h
  split at h
  · cases h
  case h_2 name args =>
      refine ⟨name, args, rfl, ?_⟩
      split at h
      case h_1 action hbuiltin =>
          cases h
          exact .inl ⟨action, rfl, hbuiltin⟩
      case h_2 hbuiltin =>
          split at h
          case h_1 c hprogram =>
              cases h
              exact .inr ⟨c, rfl, hbuiltin, hprogram⟩
          · cases h

theorem dispatch_of_builtin? {sh : Shell} {st : State} {name : Text} {args : List Text}
    {action : Action} (h : sh.builtin? st.env name args = some action) :
    sh.dispatch st (name :: args) = .ok (.builtin name action) := by
  simp only [dispatch, h]

theorem dispatch_of_program? {sh : Shell} {st : State} {name : Text} {args : List Text}
    {c : ProgramCall} (hbuiltin : sh.builtin? st.env name args = none)
    (h : program? st name args = some c) : sh.dispatch st (name :: args) = .ok (.program c) := by
  simp only [dispatch, hbuiltin, h]

theorem openSink_of_onlyNotes {st st' s : State} (h : st.OnlyNotes st') {r : Redirection}
    {res : Except TargetError Sink} (hopen : openSink st r = (s, res)) :
    ∃ s', openSink st' r = (s', res) ∧ s.OnlyNotes s' := by
  have htarget : Redirection.openTarget st'.tree st'.workDir st'.env.currentDir r.filename r.mode =
      Redirection.openTarget st.tree st.workDir st.env.currentDir r.filename r.mode := by
    rw [h.env, h.tree, h.workDir]
  unfold openSink at hopen ⊢
  rw [htarget]
  revert hopen
  rcases Redirection.openTarget st.tree st.workDir st.env.currentDir r.filename r.mode with
    ⟨tree, e | w⟩
  · intro hopen
    cases hopen
    exact ⟨_, rfl, { h with tree := rfl }⟩
  · intro hopen
    cases hopen
    have hopened : State.OnlyNotes { st with tree := tree } { st' with tree := tree } :=
      { h with tree := rfl }
    exact ⟨_, rfl, hopened.note_note _ _⟩

/-- The run of a command, by itself or by a line that denotes it. -/
inductive Runs (sh : Shell) (c : Command) (streams : Streams) (st : State) :
    State × Except LineError ExitCode → Prop where
  | command : Runs sh c streams st (sh.runCommand c streams st)
  | line {line : Text} (h : c.IsDenotedBy line) :
      Runs sh c streams st (sh.runLine line streams st)

theorem exists_runLine_eq {c : Command} {line : Text} (h : c.IsDenotedBy line) (sh : Shell)
    (streams : Streams) (st : State) :
    ∃ st₁, st.OnlyNotes st₁ ∧ sh.runLine line streams st = sh.runCommand c streams st₁ := by
  obtain ⟨ts, hline, hts⟩ := h
  obtain ⟨ignored, hread⟩ := Command.ofTokens_eq_ok_some_iff.1 hts
  have hparse := Command.parse_eq_ok_some_iff.2 hread
  refine ⟨noteIgnored (st.note (.tokenized ts)) ignored, ?_, ?_⟩
  · exact onlyNotes_noteIgnored ((State.OnlyNotes.refl st).note _) _
  · simp only [runLine, hline, runTokens, hparse]

theorem Runs.exists_eq {sh : Shell} {c : Command} {streams : Streams} {st : State}
    {out : State × Except LineError ExitCode} (h : sh.Runs c streams st out) :
    ∃ st₁, st.OnlyNotes st₁ ∧ out = sh.runCommand c streams st₁ := by
  cases h with
  | command => exact ⟨st, .refl st, rfl⟩
  | line hline => exact exists_runLine_eq hline sh streams st

/-- A line runs the command that it denotes, or only adds to the log. -/
theorem runLine_cases (sh : Shell) (line : Text) (streams : Streams) (st : State) :
    (∃ c : Command, c.IsDenotedBy line) ∨ st.OnlyNotes (sh.runLine line streams st).1 := by
  rcases hline : Token.ofLine line with e | ts
  · rw [runLine_of_lexError hline]
    exact .inr (.refl st)
  rcases hparse : Command.parse ts with e | _ | p
  · rw [runLine_of_parseError hline hparse]
    exact .inr ((State.OnlyNotes.refl st).note _)
  · simp only [runLine, hline, runTokens, hparse]
    exact .inr ((State.OnlyNotes.refl st).note _)
  · refine .inl ⟨p.command, ts, hline, ?_⟩
    rw [Command.ofTokens, hparse]
    rfl

/-- The state after some lines, each with its streams. -/
def runLines (sh : Shell) : List (Text × Streams) → State → State
  | [], st => st
  | (line, streams) :: rest, st => runLines sh rest (sh.runLine line streams st).1

/-- The results of some lines, each with its streams. -/
def results (sh : Shell) : List (Text × Streams) → State → List (Except LineError ExitCode)
  | [], _ => []
  | (line, streams) :: rest, st =>
    (sh.runLine line streams st).2 :: sh.results rest (sh.runLine line streams st).1

end Shell

end CommandShell
