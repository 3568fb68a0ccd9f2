import CommandShell.Proofs.FileTree.Opening
import CommandShell.Proofs.Program.Run
import CommandShell.Proofs.Shell.Impartial
import CommandShell.Proofs.Shell.Lines

/-!
# What a line does to the session

Of all commands two change the session, and both only in their last step, behind which the
streams are flushed: `cd` moves the process and the shell to one directory, and `exit` leaves
a request. `State.Turns` says what can come of a command, by its name and arguments. Whatever
else happens on the way, with the target of a redirection or in a program, keeps the session
and every directory (`State.Stays`).

The main statement is `Shell.turns_runLine`.
-/

namespace CommandShell

namespace State

/-- Behind its last step a command ends with a status, unless the streams that it was given
cannot be flushed. -/
def Ends (st : State) (streams : Streams) (code : ExitCode)
    (result : Except LineError ExitCode) : Prop :=
  result = .ok code ∨
    ∃ cause, st.flush [streams.out, streams.err] = .error cause ∧ result = .error (.io cause)

/-- What a command with these streams does to the session. -/
inductive Turns (st : State) (streams : Streams) :
    List Text → State → Except LineError ExitCode → Prop where
  | stays {argv st' result} (h : st.Stays st') : Turns st streams argv st' result
  | moves {args a place path result}
      (hargs : ChangeDirectory.grammar.read args = .ok (.run a))
      (hgoal : (ChangeDirectory.mk a.positionals.head?).goal st = .ok (place, path))
      (hend : st.Ends streams 0 result) :
      Turns st streams (ChangeDirectory.name :: args)
        { st with workDir := place, env := { st.env with currentDir := path } } result
  | asks {args e result} (hargs : Exit.ofArguments args = .ok e)
      (hend : st.Ends streams (e.code.getD 0) result) :
      Turns st streams (Exit.name :: args)
        { st with env := { st.env with requestedExit := some (e.code.getD 0) } } result

theorem Ends.of_standard_eq {st st' : State} (h : st'.standard = st.standard) {streams : Streams}
    {code : ExitCode} {result : Except LineError ExitCode} (hend : st'.Ends streams code result) :
    st.Ends streams code result := by
  unfold Ends at hend ⊢
  rwa [flush_of_standard_eq h] at hend

theorem Ends.of_divert {st : State} {streams : Streams} {s : Stream} {w : WriteTarget}
    {code : ExitCode} {result : Except LineError ExitCode}
    (h : st.Ends (streams.divert s (.target w)) code result) : st.Ends streams code result := by
  obtain hcode | ⟨cause, hflush, hresult⟩ := h
  · exact .inl hcode
  · exact .inr ⟨cause, flush_error_of_divert hflush, hresult⟩

theorem Turns.of_divert {st st' : State} {streams : Streams} {s : Stream} {w : WriteTarget}
    {argv : List Text} {result : Except LineError ExitCode}
    (h : st.Turns (streams.divert s (.target w)) argv st' result) :
    st.Turns streams argv st' result := by
  cases h with
  | stays h => exact .stays h
  | moves hargs hgoal hend => exact .moves hargs hgoal hend.of_divert
  | asks hargs hend => exact .asks hargs hend.of_divert

theorem Turns.inherited {st st' : State} {streams : Streams} {argv : List Text}
    {result : Except LineError ExitCode} (h : st.Turns streams argv st' result) :
    st'.inherited = st.inherited := by
  cases h with
  | stays h => exact h.inherited
  | moves => rfl
  | asks => rfl

/-- A stream refuses what it refused. -/
theorem Turns.refusal {st st' : State} {streams : Streams} {argv : List Text}
    {result : Except LineError ExitCode} (h : st.Turns streams argv st' result) (s : Stream) :
    st'.standard.refusal? s = st.standard.refusal? s := by
  cases h with
  | stays h => exact h.refusal s
  | moves => rfl
  | asks => rfl

end State

theorem Action.ends_settle (streams : Streams) (code : ExitCode) (st : State) :
    st.Ends streams code (settle [streams.out, streams.err] code st).2 := by
  unfold settle
  split
  · exact .inl rfl
  case h_2 cause hflush => exact .inr ⟨cause, hflush, rfl⟩

namespace Builtin

/-- Arguments that are not taken are told about, and that is all. -/
theorem turns_ofGrammar {g : ArgumentGrammar} {args argv : List Text} {run : Arguments → Action}
    {streams : Streams} {st : State}
    (hrun : ∀ a, g.read args = .ok (.run a) →
      st.Turns streams argv (run a streams st).1 (run a streams st).2) :
    st.Turns streams argv (ofGrammar g args run streams st).1
      (ofGrammar g args run streams st).2 := by
  unfold ofGrammar
  rcases hargs : g.read args with e | _ | a
  · exact .stays (Action.stays_refusal _ _ _)
  · exact .stays (Action.stays_help _ _ _)
  · exact hrun a hargs

theorem turns_action (b : Builtin) (args : List Text) (streams : Streams) (st : State) :
    st.Turns streams (b.name :: args) (b.action args streams st).1
      (b.action args streams st).2 := by
  cases b with
  | cd =>
      refine turns_ofGrammar ?_
      intro a hargs
      obtain ⟨e, hmove⟩ | ⟨place, path, hgoal, -, hmove⟩ :=
        (ChangeDirectory.mk a.positionals.head?).move_cases st
      · rw [ChangeDirectory.action_of_move_error hmove]
        exact .stays (Action.stays_tell _ _ _ _ _)
      · rw [ChangeDirectory.action_of_move_ok hmove, Action.settle_fst]
        exact .moves hargs hgoal ((Action.ends_settle streams 0 _).of_standard_eq rfl)
  | echo => exact .stays (Echo.stays_action _ _ _)
  | exit =>
      unfold action
      rcases hargs : Exit.ofArguments args with e | e
      · exact .stays (Action.stays_refusal _ _ _)
      · dsimp only [Exit.action, Action.ofBody]
        rw [Action.settle_fst]
        exact .asks hargs ((Action.ends_settle streams _ _).of_standard_eq rfl)
  | pwd => exact turns_ofGrammar fun _ _ => .stays (PrintDirectory.stays_action _ _)
  | type => exact turns_ofGrammar fun _ _ => .stays (Describe.stays_action _ _ _)

end Builtin

namespace ProgramCall

theorem stays_afterRun (st : State) (streams : Streams) (o : Outcome) :
    st.Stays (afterRun st streams o) := by
  have hwritten := (State.alike_afterProgramWrote st streams.out o.out).trans
    (State.alike_afterProgramWrote _ streams.err o.err)
  unfold afterRun
  dsimp only
  split
  · exact { hwritten.stays with }
  · exact hwritten.stays

theorem stays_run (c : ProgramCall) (pf : Platform) (held : List Address) (streams : Streams)
    (st : State) : st.Stays (c.run pf held streams st).1 := by
  rw [run_eq]
  split
  · exact .refl st
  split
  · exact .refl st
  · exact { stays_afterRun st streams _ with }

end ProgramCall

namespace Shell

theorem stays_openSink {st st' : State} {r : Redirection} {res : Except TargetError Sink}
    (h : openSink st r = (st', res)) : st.Stays st' := by
  have hkeeps := Redirection.keepsDirectories_openTarget st.tree st.workDir st.env.currentDir
    r.filename r.mode
  refine { sameSession_of_openSink h with directories := ?_ }
  unfold openSink at h
  split at h
  case h_1 htarget =>
      cases h
      rw [htarget] at hkeeps
      exact hkeeps
  case h_2 htarget =>
      cases h
      rw [htarget] at hkeeps
      exact hkeeps

section

variable {sh : Shell} (hsh : sh.builtins.OfBuiltins)
include hsh

theorem turns_run {st : State} {argv : List Text} {d : Dispatched}
    (h : sh.dispatch st argv = .ok d) (held : List Address) (streams : Streams) (st' : State) :
    st'.Turns streams argv (d.runHolding sh.platform held streams st').1
      (d.runHolding sh.platform held streams st').2 := by
  obtain ⟨name, args, rfl, ⟨action, rfl, hbuiltin⟩ | ⟨c, rfl, -⟩⟩ := dispatch_cases h
  · obtain ⟨b, rfl, rfl⟩ := exists_of_builtin? hsh hbuiltin
    exact b.turns_action args streams st'
  · exact .stays (c.stays_run sh.platform held streams st')

theorem turns_runCommand (c : Command) (streams : Streams) (st : State) :
    ∃ s, st.Stays s ∧ s.standard = st.standard ∧ s.Turns streams c.argv
      (sh.runCommand c streams st).1 (sh.runCommand c streams st).2 := by
  unfold runCommand
  rcases hd : sh.dispatch st c.argv with e | d
  · exact ⟨st, .refl st, rfl, .stays (.refl st)⟩
  have hnote : st.Stays (st.note d.event) := ((State.OnlyNotes.refl st).note _).stays
  dsimp only
  rcases hr : c.redirection with _ | r
  · exact ⟨_, hnote, rfl, turns_run hsh hd [] _ _⟩
  · rcases hopen : openSink (st.note d.event) r with ⟨s, e | sink⟩
    · refine ⟨st, .refl st, rfl, ?_⟩
      simp only [runRedirected, hopen]
      exact .stays (hnote.trans (stays_openSink hopen))
    · obtain ⟨⟨w, rfl⟩, hstandard⟩ := exists_target_of_openSink hopen
      refine ⟨s, hnote.trans (stays_openSink hopen), hstandard, ?_⟩
      simp only [runRedirected, hopen]
      exact (turns_run hsh hd _ _ _).of_divert

/-- A line denotes the command that turns the session, or leaves the session. -/
theorem turns_runLine (line : Text) (streams : Streams) (st : State) :
    (∃ c : Command, c.IsDenotedBy line ∧ ∃ s, st.Stays s ∧ s.standard = st.standard ∧
      s.Turns streams c.argv (sh.runLine line streams st).1 (sh.runLine line streams st).2) ∨
      st.Stays (sh.runLine line streams st).1 := by
  obtain ⟨c, hline⟩ | hnotes := sh.runLine_cases line streams st
  · obtain ⟨st₁, hst, heq⟩ := exists_runLine_eq hline sh streams st
    obtain ⟨s, hs, hstandard, hturns⟩ := turns_runCommand hsh c streams st₁
    rw [heq]
    exact .inl ⟨c, hline, s, hst.stays.trans hs, hstandard.trans hst.standard, hturns⟩
  · exact .inr hnotes.stays

/-- No standard command changes the variables of the process. -/
theorem inherited_runLine (line : Text) (streams : Streams) (st : State) :
    (sh.runLine line streams st).1.inherited = st.inherited := by
  obtain ⟨c, -, s, hs, -, hturns⟩ | hstays := turns_runLine hsh line streams st
  · exact hturns.inherited.trans hs.inherited
  · exact hstays.inherited

/-- No line makes a standard stream refuse or take what it did not. -/
theorem refusal_runLine (line : Text) (streams : Streams) (st : State) (s : Stream) :
    (sh.runLine line streams st).1.standard.refusal? s = st.standard.refusal? s := by
  obtain ⟨c, -, _, hs, -, hturns⟩ | hstays := turns_runLine hsh line streams st
  · exact (hturns.refusal s).trans (hs.refusal s)
  · exact hstays.refusal s

end

end Shell

end CommandShell
