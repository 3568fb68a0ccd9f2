import CommandShell.Proofs.Shell.Reading

/-!
# Lines at the end of the input

A program may read what the shell has left of the input, but at its end there is nothing
left: the program does what it does on a platform that gives programs no input at all
(`Platform.unfed`). On that platform every line leaves the input. So it does not matter
how the end was reached: at the end of any input a line has the same result and the same
effect.

Main statements: a line at the end of any input (`Shell.exists_added_of_ends`), and from
it the loop over an input of one line (`Shell.exists_repl_line`).
-/

namespace CommandShell

namespace Input.Ends

variable {i : Input}

theorem unread_eq (h : i.Ends) : i.unread = [] := by
  rw [unread, h.1, Text.toUtf8_nil, List.drop_nil]
  rfl

theorem drained_eq (h : i.Ends) : i.drained = i :=
  drained_of_utf8Size_le (by rw [h.1]; exact Nat.zero_le _)

end Input.Ends

theorem LeavesInput.input_eq {ε : Type} {run : State → State × ε} {st : State}
    (h : LeavesInput run st) : (run st).1.input = st.input := by
  obtain ⟨added, -, hrun⟩ := h.run_resume
  have hself := hrun st.input st.transcript
  rw [st.resume_self] at hself
  rw [hself, State.input_resume]

/-- The platform on which no program gets any input. -/
def Platform.unfed (pf : Platform) : Platform where
  run := fun id inv => { pf.run id { inv with input := [] } with readsInput := false }
  runScript := fun t inv => { pf.runScript t { inv with input := [] } with readsInput := false }
  defaultSearchPath := pf.defaultSearchPath

theorem Platform.outcome_unfed (pf : Platform) (image : Image) (inv : Invocation) :
    pf.unfed.outcome image inv =
      { pf.outcome image { inv with input := [] } with readsInput := false } := by
  cases image with
  | program id => rfl
  | script t => rfl

namespace ProgramCall

theorem ignoresInput_unfed (c : ProgramCall) (pf : Platform) (streams : Streams) (st : State) :
    c.IgnoresInput pf.unfed streams st := by
  intro _ s _
  refine ⟨pf.unfed.outcome s.2.image (invocation st streams.input s).2, ?_, ?_⟩
  · rw [Platform.outcome_unfed]
  · intro input
    rw [Platform.outcome_unfed, Platform.outcome_unfed]

theorem invocation_of_ends {st : State} (h : st.input.Ends) (source : Source)
    (s : Place × Startup) :
    { (invocation st source s).2 with input := [] } = (invocation st source s).2 := by
  cases source with
  | inherited =>
      unfold invocation
      rw [h.unread_eq]
  | memory t => rfl

/-- An input that has ended stays as it is, whether a program reads it or not. -/
theorem afterRun_of_ends {st : State} (h : st.input.Ends) (streams : Streams) (o : Outcome) :
    afterRun st streams { o with readsInput := false } = afterRun st streams o := by
  have hinput : ((st.afterProgramWrote streams.out o.out).afterProgramWrote streams.err
      o.err).input = st.input :=
    ((State.alike_afterProgramWrote _ _ _).trans (State.alike_afterProgramWrote _ _ _)).input
  have hdrained := h.drained_eq
  rw [← hinput] at hdrained
  unfold afterRun
  dsimp only
  rw [hdrained, if_neg (by simp)]
  split
  · rfl
  · rfl

theorem run_unfed {st : State} (h : st.input.Ends) (c : ProgramCall) (pf : Platform)
    (held : List Address) (streams : Streams) :
    c.run pf.unfed held streams st = c.run pf held streams st := by
  have hstart : c.startIn pf.unfed st (streams.files ++ held) =
      c.startIn pf st (streams.files ++ held) := rfl
  rw [run_eq, run_eq, hstart]
  rcases st.flush [streams.out, streams.err] with e | _
  · rfl
  rcases c.startIn pf st (streams.files ++ held) with e | s
  · rfl
  · have houtcome : pf.unfed.outcome (invocation st streams.input s).1
        (invocation st streams.input s).2 =
        { pf.outcome (invocation st streams.input s).1 (invocation st streams.input s).2 with
          readsInput := false } := by
      rw [Platform.outcome_unfed, invocation_of_ends h]
    simp only [Except.map, houtcome, afterRun_of_ends h]

end ProgramCall

namespace Shell

/-- The shell on the platform on which no program gets any input. -/
def unfed (sh : Shell) : Shell := { sh with platform := sh.platform.unfed }

theorem ignoresInput_unfed {sh : Shell} (hsh : sh.builtins.OfBuiltins) (line : Text)
    (st : State) : sh.unfed.IgnoresInput line st := by
  have hunfed : sh.unfed.builtins.OfBuiltins := hsh
  refine ignoresInput_of_programs hunfed ?_
  intro c call _ _ streams st'
  exact call.ignoresInput_unfed sh.platform streams st'

theorem dispatch_unfed (sh : Shell) (st : State) (argv : List Text) :
    sh.unfed.dispatch st argv = sh.dispatch st argv := by
  cases argv with
  | nil => rfl
  | cons name args => rfl

theorem input_openStreams (r : Option Redirection) (streams : Streams) (st : State) :
    (openStreams r streams st).1.input = st.input :=
  (leavesInput_openStreams r streams st).input_eq

theorem runRedirected_unfed {st : State} (h : st.input.Ends) (sh : Shell) (d : Dispatched)
    (r : Option Redirection) (streams : Streams) :
    sh.unfed.runRedirected d r streams st = sh.runRedirected d r streams st := by
  rw [← input_openStreams r streams st] at h
  rw [runRedirected_eq, runRedirected_eq]
  generalize openStreams r streams st = opened at h ⊢
  obtain ⟨st', e | streams'⟩ := opened
  · rfl
  · cases d with
    | builtin name action => rfl
    | program c => exact ProgramCall.run_unfed h c sh.platform _ streams'

theorem runLine_unfed {st : State} (h : st.input.Ends) (sh : Shell) (line : Text)
    (streams : Streams) : sh.unfed.runLine line streams st = sh.runLine line streams st := by
  rcases hlex : Token.ofLine line with e | ts
  · rw [runLine_of_lexError hlex, runLine_of_lexError hlex]
  rcases hparse : Command.parse ts with e | _ | p
  · rw [runLine_of_parseError hlex hparse, runLine_of_parseError hlex hparse]
  · simp only [runLine, hlex, runTokens, hparse]
  · rw [runLine_of_parse hlex hparse, runLine_of_parse hlex hparse, dispatch_unfed]
    rcases sh.dispatch st p.command.argv with e | d
    · rfl
    · have hinput := (onlyNotes_dispatchedState st ts p d).input
      rw [← hinput] at h
      exact runRedirected_unfed h sh d p.command.redirection streams

theorem report_unfed {st : State} (h : st.input.Ends) (sh : Shell) (line : Text) :
    sh.unfed.report line st = sh.report line st := by
  rw [report_eq, report_eq, runLine_unfed h]

/-- At the end of any input, and behind any history, a line does the same. -/
theorem exists_added_of_ends {sh : Shell} (hsh : sh.builtins.OfBuiltins) (line : Text)
    {st : State} (h : st.input.Ends) :
    ∃ added, (sh.report line st).1.transcript = st.transcript ++ added ∧
      ∀ input transcript, input.Ends → sh.report line (st.resume input transcript) =
        ((sh.report line st).1.resume input (transcript ++ added), (sh.report line st).2) := by
  obtain ⟨added, hadded, hrun⟩ := (leavesInput_report (ignoresInput_unfed hsh line st)).run_resume
  rw [report_unfed h] at hadded hrun
  refine ⟨added, hadded, ?_⟩
  intro input transcript hinput
  have hends : (st.resume input transcript).input.Ends := hinput
  rw [← report_unfed hends]
  exact hrun input transcript

section

variable {sh : Shell} (hsh : sh.builtins.OfBuiltins)
include hsh

/-- A request that a line makes asks for the status of the line, if its streams take what they
get. -/
theorem runReporting_of_requestedExit {line : Text} {st : State}
    (htaken : st.refusal? (.own .out) = none) (hst : st.env.requestedExit = none) {c : ExitCode}
    (h : (sh.runReporting line st).1.env.requestedExit = some c) :
    sh.runLine line .own st = ((sh.runReporting line st).1, .ok c) ∧
      (sh.runReporting line st).2 = c := by
  rw [(sameSession_runReporting sh line st).env] at h
  obtain ⟨-, hok | ⟨cause, hflush, -⟩⟩ := isAskedBy_of_requestedExit hsh hst h
  · have hreport : sh.report line st = ((sh.runLine line .own st).1, some c) := by
      rw [report_eq, hok, told]
    rw [runReporting, hreport]
    exact ⟨Prod.ext rfl hok, rfl⟩
  · cases (State.flush_of_taken fun _ => htaken).symm.trans hflush

/-- An input of one line: the loop does what the line does at the end of the input. Only
what reading notes and writes by itself stands around it. -/
theorem exists_repl_line {line : Text} (hline : Input.IsPlainLine line) (prompt : Text)
    {st : State} (hends : st.input.Ends) (htaken : ∀ s, st.refusal? (.own s) = none)
    (hst : st.env.requestedExit = none) :
    ∃ rest added, (sh.runReporting line st).1.transcript = st.transcript ++ added ∧
      sh.repl prompt (st.resume (.ofText (Text.line line)) st.transcript) =
        ((sh.runReporting line st).1.resume rest (st.transcript ++
          (.noted (.measuredTerminal (Terminal.clusterDisplay st.inherited)) ::
            promptRecords prompt st) ++ added ++
          if (sh.runReporting line st).1.env.requestedExit = none then promptRecords prompt st
          else []), (sh.runReporting line st).2) := by
  obtain ⟨hnewline, hreturn, hback⟩ := hline
  obtain ⟨hprompt, hheard, hrest⟩ := heard_of_taken hsh (htaken .err) (fun _ => htaken .out) [line]
  obtain ⟨added, hadded, hrun⟩ := exists_added_of_ends hsh line hends
  obtain ⟨rest, hread, hends⟩ : ∃ rest,
      (Input.ofText (Text.line line)).readLine = (Text.line line, rest) ∧ rest.Ends := by
    have hread := Input.readLine_line hnewline [] 0
    rw [List.append_nil] at hread
    exact ⟨_, hread, rfl, rfl⟩
  have hchomp : LineEdit.applyBackspaces (LineEdit.chomp (Text.line line)) = line := by
    rw [Text.line, LineEdit.chomp_append_newline hreturn,
      LineEdit.applyBackspaces_of_not_mem hback]
  have hsome : (Input.ofText (Text.line line)).readLine.1 ≠ [] := by
    rw [hread]
    simp [Text.line]
  have hrepl : sh.repl prompt (st.resume (.ofText (Text.line line)) st.transcript) =
      sh.loop prompt (line.length + 1 + 1) 0 (st.resume (.ofText (Text.line line))
        (st.transcript ++
          [.noted (.measuredTerminal (Terminal.clusterDisplay st.inherited))])) := by
    rw [repl, State.input_resume, Input.all_ofText, Text.line, List.length_append]
    rfl
  refine ⟨rest, added, hadded, ?_⟩
  rw [hrepl, loop_resume_of_line sh rfl hsome hprompt, hread, hchomp, hrun _ _ hends,
    report_of_ne_none hheard, afterReport]
  rcases hrequested : (sh.runReporting line st).1.env.requestedExit with _ | c
  · have hshown : promptRecords prompt (sh.runReporting line st).1 = promptRecords prompt st := by
      rw [promptRecords, promptRecords, inherited_runReporting hsh]
    simp only [afterLine, State.env_resume, hrequested]
    rw [loop_resume_of_ends sh hends (hrest hrequested), hshown]
    simp
  · simp only [afterLine, State.env_resume, hrequested]
    rw [(runReporting_of_requestedExit hsh (htaken .out) hst hrequested).2]
    simp

end

end Shell

end CommandShell
