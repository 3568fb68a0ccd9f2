import CommandShell.Launch
import CommandShell.Probe
import CommandShell.Proofs.Shell.EndedInput
import CommandShell.Proofs.Shell.ExitRequest

/-!
# The status that is asked for

`exit` takes the integers of 32 bits and nothing else, and the program that it ends has the
status that was asked for, as far as the system keeps it: modulo 256. It does not matter
whether the line of `exit` was an argument of the program or stood in its input.

What carries the second part is that nothing but a line of `exit` makes a request, so that
the loop which ends with a request has just run such a line
(`Shell.exists_of_loop_requestedExit`).

The main statement is `Launch.exit_takes_integers`.
-/

namespace CommandShell

namespace Shell

theorem sameSession_readLine (prompt : Text) (st : State) :
    st.SameSession (readLine prompt st).1 := by
  have hnote := fun e => ((State.OnlyNotes.refl st).note e).toSameSession
  have hprompting : st.SameSession (prompting prompt st).1 := by
    unfold prompting
    split
    · have hprint := (hnote .plainTerminal).trans
        ((st.note .plainTerminal).sameSession_print (.own .out) [prompt])
      generalize (st.note .plainTerminal).print (.own .out) [prompt] = r at hprint ⊢
      obtain ⟨st', e | _⟩ := r
      · exact hprint
      · exact hprint
    · exact hnote .readingPlainInput
  unfold readLine
  generalize prompting prompt st = r at hprompting ⊢
  obtain ⟨st', e | _⟩ := r
  · exact hprompting
  dsimp only
  split
  · exact hprompting
  split
  · exact { hprompting with }
  · exact { hprompting with }

/-- The loop ends with a request behind the line that made it, and with what the line
leaves. -/
theorem exists_of_loop_requestedExit {sh : Shell} (hsh : sh.builtins.OfBuiltins) {prompt : Text}
    {bound : Nat} {last : ExitCode} {st : State} {n : ExitCode}
    (htaken : ∀ s, st.refusal? (.own s) = none) (hst : st.env.requestedExit = none)
    (h : (sh.loop prompt bound last st).1.env.requestedExit = some n) :
    (sh.loop prompt bound last st).2 = n ∧
      ∃ line s, s.refusal? (.own .out) = none ∧ s.env.requestedExit = none ∧
        (sh.loop prompt bound last st).1 = (sh.runReporting line s).1 := by
  induction bound generalizing last st with
  | zero =>
      rw [loop, hst] at h
      cases h
  | succ bound ih =>
      have hsame := sameSession_readLine prompt st
      rcases hread : readLine prompt st with ⟨s, line | _ | message⟩
      all_goals
        rw [hread] at hsame
        have hnone : s.env.requestedExit = none := by rw [hsame.env, hst]
        simp only [loop, hread] at h ⊢
      · have hs : ∀ x, s.refusal? (.own x) = none :=
          fun x => (hsame.refusal?_eq _).trans (htaken x)
        have hheard := (heard_of_taken hsh (hs .err) (fun _ => hs .out) [line]).2.1
        rw [report_of_ne_none hheard] at h ⊢
        rcases hrequested : (sh.runReporting line s).1.env.requestedExit with _ | c
        · simp only [hrequested] at h ⊢
          exact ih (fun x => (refusal_runReporting hsh line s x).trans (hs x)) hrequested h
        · simp only [hrequested] at h ⊢
          exact ⟨Option.some.inj h, line, s, hs .out, hnone, rfl⟩
      · rw [hnone] at h
        cases h
      · rw [(State.sameSession_tryWrite s _ _).env, hnone] at h
        cases h

end Shell

namespace Launch

/-- The state in which the program starts to run lines. -/
def opening (pf : Platform) (l : Launch) : State :=
  Shell.start ⟨.standard, pf⟩ l.tree l.workDir l.vars l.input

/-- The state and the status that are left when lines have been run. -/
def closing (pf : Platform) (o : Options) (l : Launch) : State × ExitCode :=
  runShell ⟨.standard, pf⟩ o (opening pf l)

theorem status_run {l : Launch} {o : Options} (h : Options.read l.args = .ok (some o))
    (pf : Platform) (time : Text) :
    ((run pf time l).status : Int) = (closing pf o l).2 % 256 := by
  have hrun : (run pf time l).status = exitStatus (closing pf o l).2 := by
    rw [run, h]
    rfl
  rw [hrun]
  exact Int.toNat_of_nonneg (Int.emod_nonneg _ (by decide))

theorem closing_of_command {o : Options} {line : Text} (h : o.command = some line)
    (pf : Platform) (l : Launch) :
    closing pf o l = Shell.runReporting ⟨.standard, pf⟩ line (opening pf l) := by
  simp only [closing, runShell, h]

theorem closing_of_input {o : Options} (h : o.command = none) (pf : Platform) (l : Launch) :
    closing pf o l = Shell.repl ⟨.standard, pf⟩ o.prompt (opening pf l) := by
  simp only [closing, runShell, h]

/-- Both standard streams of a program take what they get. -/
theorem taken_opening (pf : Platform) (l : Launch) (s : Stream) :
    (opening pf l).refusal? (.own s) = none := by
  cases s <;> rfl

/-- A request at the end was made by the last line that was run, and the program ends with
it. -/
theorem exists_of_requestedExit {pf : Platform} {o : Options} {l : Launch} {n : ExitCode}
    (h : (closing pf o l).1.env.requestedExit = some n) :
    (closing pf o l).2 = n ∧ ∃ line st, st.refusal? (.own .out) = none ∧
      st.env.requestedExit = none ∧
      (closing pf o l).1 = (Shell.runReporting ⟨.standard, pf⟩ line st).1 := by
  have hsh : CommandTable.standard.OfBuiltins := CommandTable.ofBuiltins_standard
  have htaken := taken_opening pf l
  rcases hcommand : o.command with _ | line
  · rw [closing_of_input hcommand] at h ⊢
    have hrepl : ∀ s, ((opening pf l).note (.measuredTerminal
        (Terminal.clusterDisplay (opening pf l).inherited))).refusal? (.own s) = none := htaken
    exact Shell.exists_of_loop_requestedExit hsh hrepl rfl h
  · rw [closing_of_command hcommand] at h ⊢
    exact ⟨(Shell.runReporting_of_requestedExit hsh (htaken .out) rfl h).2, line, opening pf l,
      htaken .out, rfl, rfl⟩

/-- The program is left as a line leaves it that asks to exit with a status. -/
def IsEndedBy (pf : Platform) (o : Options) (l : Launch) (n : ExitCode) : Prop :=
  ∃ line args r st, Command.IsDenotedBy ⟨Exit.name :: args, r⟩ line ∧ Exit.Asks args n ∧
    st.env.requestedExit = none ∧
    (closing pf o l).1 = (Shell.runReporting ⟨.standard, pf⟩ line st).1 ∧
    (Shell.runLine ⟨.standard, pf⟩ line .own st).2 = .ok n

theorem requestedExit_eq_some_iff {pf : Platform} {o : Options} {l : Launch} {n : ExitCode} :
    (closing pf o l).1.env.requestedExit = some n ↔ IsEndedBy pf o l n := by
  constructor
  · intro h
    obtain ⟨-, line, st, htaken, hst, hclosing⟩ := exists_of_requestedExit h
    rw [hclosing] at h
    obtain ⟨args, r, hline, hasks, hrun⟩ :=
      Shell.exists_of_requestedExit CommandTable.ofBuiltins_standard htaken hst h
    exact ⟨line, args, r, st, hline, hasks, hst, hclosing, by rw [hrun]⟩
  · rintro ⟨line, args, r, st, hline, hasks, -, hclosing, hcode⟩
    obtain ⟨e, herror⟩ | ⟨s, result, -, -, hrun⟩ :=
      Shell.exists_runLine_of_asks hline hasks pf .own st
    · cases hcode.symm.trans herror
    · rw [hclosing, (Shell.sameSession_runReporting _ line st).env, hrun]

/-- A line that is given as an argument ends the program, if the target of its redirection
can be opened. -/
theorem isEndedBy_of_command {pf : Platform} {o : Options} {l : Launch} {line : Text}
    (hcommand : o.command = some line) {args : List Text} {r : Option Redirection}
    (hline : Command.IsDenotedBy ⟨Exit.name :: args, r⟩ line) {n : ExitCode}
    (hasks : Exit.Asks args n)
    (hopens : ∀ e, (Shell.runLine ⟨.standard, pf⟩ line .own (opening pf l)).2 ≠
      .error (.redirect e)) : IsEndedBy pf o l n := by
  refine ⟨line, args, r, opening pf l, hline, hasks, rfl, ?_, ?_⟩
  · rw [closing_of_command hcommand]
  · obtain ⟨e, herror⟩ | ⟨s, result, -, hok | ⟨cause, hflush, -⟩, hrun⟩ :=
      Shell.exists_runLine_of_asks hline hasks pf .own (opening pf l)
    · exact absurd herror (hopens e)
    · rw [hrun, hok]
    · cases hflush

/-- `exit` asks for a status with no argument, or with one that writes an integer of 32 bits, and
refuses all else; the usual form of each such integer is one that it takes. Asking leaves the
request and nothing else, and its status is the one that is asked for, unless the streams cannot be
flushed; a refusal leaves a message on the standard error. A run of the program ends with a request
if the last line asked for it, and only then, and its status is the one that this line asked for,
modulo 256. -/
theorem exit_takes_integers (pf : Platform) :
    (∀ args, (∃ n, Exit.Asks args n ∧ (∀ n', Exit.Asks args n' → n' = n) ∧
        ∀ message, ¬ Exit.Refuses args message) ∨
      ∃ message, Exit.Refuses args message ∧ ∀ n, ¬ Exit.Asks args n) ∧
    (∀ n : ExitCode, -2 ^ 31 ≤ n → n ≤ 2 ^ 31 - 1 → Exit.Asks [Text.ofInt n] n) ∧
    (∀ (st : State) (args : List Text),
      Shell.dispatch ⟨.standard, pf⟩ st (Exit.name :: args) =
        .ok (.builtin Exit.name (Builtin.exit.action args))) ∧
    (∀ args n, Exit.Asks args n → ∀ (streams : Streams) (st : State),
      ∃ result, Builtin.exit.action args streams st =
          ({ st with env := { st.env with requestedExit := some n } }, result) ∧
        (st.flush [streams.out, streams.err] = .ok () → result = .ok n) ∧
        ∀ e, st.flush [streams.out, streams.err] = .error e → result = .error (.io e)) ∧
    (∀ args message, Exit.Refuses args message → ∀ (streams : Streams) (st : State),
      st.refusal? streams.err = none →
      ∃ st', Builtin.exit.action args streams st = (st', .ok 2) ∧ st'.env = st.env ∧
        st.Receives st' streams [(.err, Text.line message)]) ∧
    ∀ (time : Text) (l : Launch) (o : Options), Options.read l.args = .ok (some o) →
      (∀ n, IsEndedBy pf o l n → ((run pf time l).status : Int) = n % 256) ∧
      (∀ n, (closing pf o l).1.env.requestedExit = some n ↔ IsEndedBy pf o l n) ∧
      ∀ line args r n, o.command = some line →
        Command.IsDenotedBy ⟨Exit.name :: args, r⟩ line → Exit.Asks args n →
        (∀ e, (Shell.runLine ⟨.standard, pf⟩ line .own (opening pf l)).2 ≠
          .error (.redirect e)) → IsEndedBy pf o l n := by
  refine ⟨?_, ?_, ?_, ?_, ?_, ?_⟩
  · intro args
    obtain ⟨n, hn, hrefuses⟩ | hrefused := Exit.asks_or_refuses args
    · exact .inl ⟨n, hn, fun n' hn' => hn'.eq hn, hrefuses⟩
    · exact .inr hrefused
  · intro n hleast hgreatest
    exact .integer (Text.writes_ofInt n) hleast hgreatest
  · exact Shell.dispatch_exit pf
  · intro args n hasks streams st
    refine ⟨_, Exit.action_of_asks hasks streams st, ?_, ?_⟩
    · intro hflush
      rw [Action.settle, hflush]
    · intro e hflush
      rw [Action.settle, hflush]
  · intro args message hrefuses streams st htaken
    obtain ⟨st', hrun, halike, hreceives⟩ := Exit.exists_action_of_refuses hrefuses htaken
    exact ⟨st', hrun, halike.env, hreceives⟩
  · intro time l o hoptions
    refine ⟨?_, fun n => requestedExit_eq_some_iff, ?_⟩
    · intro n hended
      rw [status_run hoptions, (exists_of_requestedExit (requestedExit_eq_some_iff.2 hended)).1]
    · intro line args r n hcommand hline hasks hopens
      exact isEndedBy_of_command hcommand hline hasks hopens

/-- The input goes on behind an argument that is too large, and ends with the one that is
not. -/
theorem exit_takes_integers_behind_refusal :
    let pf := Probe.platform
    let l : Launch := ⟨[], "exit 2147483648\nexit -2147483643\necho later\n".toList, ⟨[]⟩, ⟨[]⟩,
      .root⟩
    let st := opening pf l
    (∃ st', Builtin.exit.action ["2147483648".toList] .own st = (st', .ok 2) ∧
      st'.env = st.env ∧
      st'.output .err = "exit: 2147483648: numeric argument required\n".toList) ∧
    Exit.Asks ["-2147483643".toList] (-2147483643) ∧ (run pf [] l).status = 5 := by
  intro pf l st
  obtain ⟨-, hwritten, -, -, hrefusal, hrun⟩ := exit_takes_integers pf
  have hnone : ∀ n, ¬ Exit.Asks ["2147483648".toList] n := by
    intro n hn
    have hcode := Exit.code?_eq_some_iff.2 (Exit.asks_singleton_iff.1 hn)
    have hlarge : Exit.code? "2147483648".toList = none := by decide
    rw [hlarge] at hcode
    cases hcode
  have hform : Text.ofInt (-2147483643) = "-2147483643".toList := by decide +kernel
  refine ⟨?_, hform ▸ hwritten (-2147483643) (by decide) (by decide), ?_⟩
  · obtain ⟨st', haction, henv, hreceives⟩ := hrefusal _ _ (.notNumeric hnone) .own st rfl
    refine ⟨st', haction, henv, ?_⟩
    exact State.output_eq_of_contentsOf (hreceives (.own .err))
  · have hread : Options.read l.args = .ok (some ⟨none, Options.defaultPrompt, none⟩) := rfl
    have hrequested : (closing pf ⟨none, Options.defaultPrompt, none⟩ l).1.env.requestedExit =
        some (-2147483643) := by decide +kernel
    obtain ⟨hstatus, hended, -⟩ := hrun [] l _ hread
    have h := hstatus _ ((hended _).1 hrequested)
    omega

end Launch

end CommandShell
