import CommandShell.Proofs.Shell.Turn

/-!
# Lines that leave the input alone

The shell and the commands that it runs share one input. A command that does not touch it
does the same with any other, and with any history: only what it writes and notes comes
behind that (`LeavesInput`). So its run can be moved from one place of the input to
another (`LeavesInput.run_resume`).

None of the standard commands touches the input, and neither does a program that ignores
it. The main statement is `Shell.leavesInput_runReporting`.
-/

namespace CommandShell

/-- The state with another input and another history. -/
def State.resume (st : State) (input : Input) (transcript : List Record) : State :=
  { st with input := input, transcript := transcript }

/-- The run has the same result and the same effect with any input and any history. The
input is left as it is, and what is written and noted comes behind the history. -/
def LeavesInput {ε : Type} (run : State → State × ε) (st : State) : Prop :=
  ∃ (st' : State) (added : List Record) (result : ε), ∀ input transcript,
    run (st.resume input transcript) = (st'.resume input (transcript ++ added), result)

namespace State

variable (st : State) (input : Input) (transcript : List Record)

@[simp] theorem env_resume : (st.resume input transcript).env = st.env := rfl

@[simp] theorem input_resume : (st.resume input transcript).input = input := rfl

@[simp] theorem transcript_resume : (st.resume input transcript).transcript = transcript := rfl

@[simp] theorem resume_self : st.resume st.input st.transcript = st := rfl

@[simp] theorem resume_resume (input' : Input) (transcript' : List Record) :
    (st.resume input transcript).resume input' transcript' = st.resume input' transcript' := rfl

theorem sameSession_resume : st.SameSession (st.resume input transcript) :=
  ⟨rfl, rfl, rfl, rfl, fun _ => rfl⟩

end State

namespace LeavesInput

section

variable {δ ε : Type} {run : State → State × ε} {st : State}

/-- The run with another input and another history, told by the run as it is. -/
theorem run_resume (h : LeavesInput run st) :
    ∃ added, (run st).1.transcript = st.transcript ++ added ∧ ∀ input transcript,
      run (st.resume input transcript) =
        ((run st).1.resume input (transcript ++ added), (run st).2) := by
  obtain ⟨st', added, result, h⟩ := h
  have hself := h st.input st.transcript
  rw [st.resume_self] at hself
  refine ⟨added, by rw [hself, State.transcript_resume], ?_⟩
  intro input transcript
  rw [h, hself, State.resume_resume]

/-- Two runs that do the same with any input and any history. -/
theorem congr {run' : State → State × ε} (h : LeavesInput run st)
    (heq : ∀ input transcript, run' (st.resume input transcript) =
      run (st.resume input transcript)) : LeavesInput run' st := by
  obtain ⟨st', added, result, h⟩ := h
  exact ⟨st', added, result, fun input transcript => (heq _ _).trans (h _ _)⟩

theorem pure (r : ε) : LeavesInput (fun st => (st, r)) st :=
  ⟨st, [], r, fun _ transcript => by rw [List.append_nil]⟩

theorem note (e : Event) (r : ε) : LeavesInput (fun st => (st.note e, r)) st :=
  ⟨st, [.noted e], r, fun _ _ => rfl⟩

/-- The second run starts where the first one ended, and may depend on its result. -/
theorem bind {run : State → State × δ} (h : LeavesInput run st) (next : δ → State → State × ε)
    (hnext : LeavesInput (next (run st).2) (run st).1) :
    LeavesInput (fun st => next (run st).2 (run st).1) st := by
  obtain ⟨added, -, hrun⟩ := h.run_resume
  obtain ⟨added', -, hrun'⟩ := hnext.run_resume
  refine ⟨(next (run st).2 (run st).1).1, added ++ added', (next (run st).2 (run st).1).2, ?_⟩
  intro input transcript
  dsimp only
  rw [hrun, hrun', List.append_assoc]

theorem map {run : State → State × δ} (h : LeavesInput run st) (f : δ → ε) :
    LeavesInput (fun st => ((run st).1, f (run st).2)) st :=
  h.bind (fun r st => (st, f r)) (.pure _)

end

end LeavesInput

/-- A value that is read off a state, and not off its input or its history. -/
def State.Lasting {α : Type} (f : State → α) : Prop :=
  ∀ st input transcript, f (State.resume st input transcript) = f st

theorem State.exists_put_resume (st : State) (sink : Sink) (t : Text) :
    ∃ added, ∀ input transcript, (st.resume input transcript).put sink t =
      (st.put sink t).resume input (transcript ++ added) := by
  rcases sink with s | s | (a | d) | cause
  case own | memory => exact ⟨[.written s t], fun _ _ => rfl⟩
  all_goals exact ⟨[], fun _ _ => by rw [List.append_nil]; rfl⟩

theorem leavesInput_print (sink : Sink) (ts : List Text) (st : State) :
    LeavesInput (fun st => st.print sink ts) st := by
  have hsame := fun input transcript => (st.sameSession_resume input transcript).refusal?_eq sink
  cases hrefusal : st.refusal? sink with
  | none =>
      obtain ⟨added, hput⟩ := st.exists_put_resume sink ts.flatten
      refine ⟨st.put sink ts.flatten, added, .ok (), ?_⟩
      intro input transcript
      dsimp only
      rw [State.print_of_taken ((hsame input transcript).trans hrefusal), hput]
  | some cause =>
      obtain ⟨standard, result, hprint⟩ := State.exists_print_of_refused st sink cause ts
      refine ⟨{ st with standard := standard }, [], result, ?_⟩
      intro input transcript
      dsimp only
      rw [hprint _ ((hsame input transcript).trans hrefusal) rfl, List.append_nil]
      rfl

theorem leavesInput_write (sink : Sink) (t : Text) (st : State) :
    LeavesInput (fun st => (st.tryWrite sink t, st.refusal? sink)) st := by
  have hsame := fun input transcript => (st.sameSession_resume input transcript).refusal?_eq sink
  cases hrefusal : st.refusal? sink with
  | none =>
      obtain ⟨added, hput⟩ := st.exists_put_resume sink t
      refine ⟨st.put sink t, added, none, ?_⟩
      intro input transcript
      simp only [State.tryWrite, State.write, hsame, hrefusal, hput]
  | some cause =>
      refine ⟨st, [], some cause, ?_⟩
      intro input transcript
      by_cases ht : t = []
      · simp only [State.tryWrite, State.write, hsame, hrefusal, if_pos ht, List.append_nil]
      · simp only [State.tryWrite, State.write, hsame, hrefusal, if_neg ht, List.append_nil]

section

variable {ε : Type}

theorem leavesInput_printThen (s : Stream) (ts : State → List Text) (ok : State → ε)
    (error : IoError → ε) (hts : State.Lasting ts) (hok : State.Lasting ok) (streams : Streams)
    (st : State) : LeavesInput (printThen s ts ok error streams) st := by
  obtain ⟨st', added, result, h⟩ := leavesInput_print (streams.sink s) (ts st) st
  cases result with
  | ok =>
      refine ⟨st', added, ok st, ?_⟩
      intro input transcript
      simp only [printThen, hts st, hok st, h]
  | error e =>
      refine ⟨st', added, error e, ?_⟩
      intro input transcript
      simp only [printThen, hts st, h]

end

/-- The action leaves the input, whatever its streams are. -/
def Action.LeavesInput (a : Action) : Prop :=
  ∀ streams st, CommandShell.LeavesInput (a streams) st

namespace Action

theorem leavesInput_settle (sinks : List Sink) (code : ExitCode) (st : State) :
    CommandShell.LeavesInput (settle sinks code) st := by
  refine ⟨st, [], (settle sinks code st).2, ?_⟩
  intro input transcript
  have hflush : (st.resume input transcript).flush sinks = st.flush sinks :=
    State.flush_of_standard_eq rfl sinks
  unfold settle
  rw [hflush, List.append_nil]
  rcases st.flush sinks with e | _
  · rfl
  · rfl

theorem leavesInput_tell (sink : Sink) (line : Text) (flushed : List Sink) (code : ExitCode)
    (st : State) : CommandShell.LeavesInput (tell sink line flushed code) st := by
  rw [tell_eq]
  refine (leavesInput_print sink [line, ['\n']] st).bind (settleBehind flushed code) ?_
  rcases (st.print sink [line, ['\n']]).2 with e | _
  · exact .pure _
  · exact leavesInput_settle flushed code _

theorem leavesInput_help (text : Text) : (help text).LeavesInput :=
  fun _ st => leavesInput_tell _ _ _ _ st

theorem leavesInput_refusal (message : Text) : (refusal message).LeavesInput :=
  fun _ st => leavesInput_tell _ _ _ _ st

theorem leavesInput_ofBody {body : Sink → State → State × Except Text ExitCode}
    (h : ∀ (streams : Streams) (st : State), CommandShell.LeavesInput (body streams.out) st) :
    (ofBody body).LeavesInput := by
  intro streams st
  rw [ofBody_eq]
  refine (h streams st).bind (fun r => finish r streams) ?_
  rcases (body streams.out st).2 with message | code
  · exact leavesInput_tell _ _ _ _ _
  · exact leavesInput_settle _ _ _

theorem leavesInput_writeBody {ts : State → List Text} (hts : State.Lasting ts)
    (streams : Streams) (st : State) :
    CommandShell.LeavesInput (fun st => writeBody (ts st) streams.out st) st :=
  leavesInput_printThen .out ts (fun _ => Except.ok 0) (fun e => Except.error e.message) hts
    (fun _ _ _ => rfl) streams st

end Action

namespace ChangeDirectory

theorem leavesInput_move (c : ChangeDirectory) (st : State) : LeavesInput c.move st := by
  refine ⟨(c.move st).1, [], (c.move st).2, ?_⟩
  intro input transcript
  have hgoal : c.goal (st.resume input transcript) = c.goal st := rfl
  have hbarred : (st.resume input transcript).barred = st.barred := rfl
  rw [List.append_nil]
  rcases hc : c.goal st with e | ⟨place, path⟩
  · rw [move_of_error hc, move_of_error (hgoal.trans hc)]
  rcases hb : st.barred.lookup place.address with _ | cause
  · rw [move_of_ok hc hb, move_of_ok (hgoal.trans hc) (by rw [hbarred, hb])]
    rfl
  · rw [move_of_barred hc hb, move_of_barred (hgoal.trans hc) (by rw [hbarred, hb])]

theorem leavesInput_action (c : ChangeDirectory) : c.action.LeavesInput := by
  rw [action_eq]
  exact Action.leavesInput_ofBody fun _ st => (c.leavesInput_move st).map bodyResult

end ChangeDirectory

namespace Describe

theorem leavesInput_writeAll (streams : Streams) (code : ExitCode) (ns : List Text) (st : State) :
    LeavesInput (writeAll streams.out code ns) st := by
  induction ns generalizing code st with
  | nil => exact .pure (Except.ok code)
  | cons n ns ih =>
      rw [show writeAll streams.out code (n :: ns) = fun st =>
        writeRest ns (writeFirst n code streams.out st).2 streams.out
          (writeFirst n code streams.out st).1 from funext (writeAll_cons _ _ _ _)]
      have hfirst : LeavesInput (writeFirst n code streams.out) st :=
        leavesInput_printThen .out (fun st => (describe st n).pieces n)
          (fun st => Except.ok (if describe st n = .notFound then 1 else code))
          (fun e => Except.error e.message) (fun _ _ _ => rfl) (fun _ _ _ => rfl) streams st
      refine hfirst.bind (fun r => writeRest ns r streams.out) ?_
      rcases (writeFirst n code streams.out st).2 with message | code'
      · exact .pure _
      · exact ih code' _

theorem leavesInput_action (d : Describe) : d.action.LeavesInput := by
  refine Action.leavesInput_ofBody ?_
  intro streams st
  unfold body
  by_cases h : d.names = []
  · simp only [h, if_true]
    exact .pure _
  · simp only [h, if_false]
    exact leavesInput_writeAll streams 0 d.names st

end Describe

theorem Echo.leavesInput_action (e : Echo) : e.action.LeavesInput :=
  Action.leavesInput_ofBody (Action.leavesInput_writeBody fun _ _ _ => rfl)

theorem PrintDirectory.leavesInput_action : PrintDirectory.action.LeavesInput :=
  Action.leavesInput_ofBody (Action.leavesInput_writeBody fun _ _ _ => rfl)

theorem Exit.leavesInput_action (e : Exit) : e.action.LeavesInput := by
  refine Action.leavesInput_ofBody ?_
  intro streams st
  refine ⟨{ st with env := { st.env with requestedExit := some (e.code.getD 0) } }, [],
    .ok (e.code.getD 0), ?_⟩
  intro input transcript
  rw [List.append_nil]
  rfl

namespace Builtin

theorem leavesInput_ofGrammar {g : ArgumentGrammar} {args : List Text} {run : Arguments → Action}
    (hrun : ∀ a, (run a).LeavesInput) : (ofGrammar g args run).LeavesInput := by
  unfold ofGrammar
  split
  · exact Action.leavesInput_refusal _
  · exact Action.leavesInput_help _
  · exact hrun _

theorem leavesInput_action (b : Builtin) (args : List Text) : (b.action args).LeavesInput := by
  cases b with
  | cd => exact leavesInput_ofGrammar fun _ => ChangeDirectory.leavesInput_action _
  | echo => exact Echo.leavesInput_action _
  | exit =>
      unfold action
      dsimp only
      split
      · exact Action.leavesInput_refusal _
      · exact Exit.leavesInput_action _
  | pwd => exact leavesInput_ofGrammar fun _ => PrintDirectory.leavesInput_action
  | type => exact leavesInput_ofGrammar fun _ => Describe.leavesInput_action _

end Builtin

namespace ProgramCall

/-- If the program starts, then it does the same with any input, and does not read it. -/
def IgnoresInput (c : ProgramCall) (pf : Platform) (streams : Streams) (st : State) : Prop :=
  ∀ held s, c.startIn pf st (streams.files ++ held) = .ok s → ∃ o : Outcome, o.readsInput = false ∧
    ∀ input, pf.outcome s.2.image { (invocation st streams.input s).2 with input := input } = o

theorem leavesInput_afterProgramWrote (sink : Sink) (t : Text) (st : State) :
    LeavesInput (fun st => (st.afterProgramWrote sink t, ())) st := by
  have hwrite := (leavesInput_write sink t st).map fun _ => ()
  cases sink with
  | memory s => exact .pure ()
  | own s => exact hwrite
  | target w => exact hwrite
  | refusing cause => exact hwrite

theorem leavesInput_afterRun {o : Outcome} (h : o.readsInput = false) (streams : Streams)
    (st : State) : LeavesInput (fun st => (afterRun st streams o, ())) st := by
  have hout := leavesInput_afterProgramWrote streams.out o.out st
  have hboth := hout.bind (fun _ st => (st.afterProgramWrote streams.err o.err, ()))
    (leavesInput_afterProgramWrote streams.err o.err _)
  unfold afterRun
  simpa [h] using hboth

theorem leavesInput_run {c : ProgramCall} {pf : Platform} {streams : Streams} {st : State}
    (h : c.IgnoresInput pf streams st) (held : List Address) :
    LeavesInput (c.run pf held streams) st := by
  have hflush : ∀ input transcript, (st.resume input transcript).flush [streams.out, streams.err] =
      st.flush [streams.out, streams.err] := fun _ _ => State.flush_of_standard_eq rfl _
  have hstart : ∀ input transcript,
      c.startIn pf (st.resume input transcript) (streams.files ++ held) =
        c.startIn pf st (streams.files ++ held) := fun _ _ => rfl
  rcases hflushed : st.flush [streams.out, streams.err] with e | _
  · refine ⟨st, [], .error (.io e), ?_⟩
    intro input transcript
    rw [run_eq, hflush, hflushed, List.append_nil]
  rcases hs : c.startIn pf st (streams.files ++ held) with e | s
  · refine ⟨st, [], .error (.spawn c.name e), ?_⟩
    intro input transcript
    rw [run_eq, hflush, hflushed, hstart, hs, List.append_nil]
    rfl
  · obtain ⟨o, ho, houtcome⟩ := h held s hs
    let finish : Unit → State → State × Except LineError ExitCode := fun _ st =>
      (st.note (.finishedProgram c.program o.status), .ok o.status.code)
    have hnote : LeavesInput (finish ()) (afterRun st streams o) := .note _ _
    obtain ⟨st', added, result, hrun⟩ := (leavesInput_afterRun ho streams st).bind finish hnote
    refine ⟨st', added, result, ?_⟩
    intro input transcript
    rw [← hrun, run_eq, hflush, hflushed, hstart, hs]
    have hinvocation : pf.outcome (invocation (st.resume input transcript) streams.input s).1
        (invocation (st.resume input transcript) streams.input s).2 = o := houtcome _
    simp only [Except.map, hinvocation, finish]

end ProgramCall

/-- A platform on which all programs do the same, whatever they are started with. -/
def Platform.constant (o : Outcome) : Platform where
  run := fun _ _ => o
  runScript := fun _ _ => o
  defaultSearchPath := usualSearchPath

theorem ProgramCall.ignoresInput_constant {o : Outcome} (h : o.readsInput = false)
    (c : ProgramCall) (streams : Streams) (st : State) :
    c.IgnoresInput (.constant o) streams st := by
  intro _ s _
  refine ⟨o, h, ?_⟩
  intro input
  cases s.2.image with
  | program id => rfl
  | script t => rfl

/-- The command does not read: it is built in and leaves the input, or it is a program that
ignores the input. -/
def Dispatched.IgnoresInput (pf : Platform) : Dispatched → Prop
  | .builtin _ action => action.LeavesInput
  | .program c => ∀ streams st, c.IgnoresInput pf streams st

theorem Dispatched.leavesInput_runHolding {d : Dispatched} {pf : Platform}
    (h : d.IgnoresInput pf) (held : List Address) : (d.runHolding pf held).LeavesInput := by
  cases d with
  | builtin name action => exact h
  | program c => exact fun streams st => ProgramCall.leavesInput_run (h streams st) held

namespace Shell

theorem leavesInput_openStreams (r : Option Redirection) (streams : Streams) (st : State) :
    LeavesInput (openStreams r streams) st := by
  cases r with
  | none => exact .pure _
  | some r =>
      rcases htarget : Redirection.openTarget st.tree st.workDir st.env.currentDir r.filename
        r.mode with ⟨tree, e | w⟩
      · refine ⟨{ st with tree := tree }, [], .error e, ?_⟩
        intro input transcript
        have hopen : openSink (st.resume input transcript) r =
            ({ st.resume input transcript with tree := tree }, .error e) := by
          simp only [openSink, State.resume, htarget]
        rw [openStreams, hopen, List.append_nil]
        rfl
      · let e := Event.openedTarget (Path.join st.env.currentDir r.filename) r.mode
        refine ⟨{ st with tree := tree }, [.noted e], .ok (streams.divert r.stream (.target w)), ?_⟩
        intro input transcript
        have hopen : openSink (st.resume input transcript) r =
            (State.note { st.resume input transcript with tree := tree } e, .ok (.target w)) := by
          simp only [openSink, State.resume, htarget, e]
        rw [openStreams, hopen]
        rfl

theorem leavesInput_noteIgnored (words : List Text) (st : State) :
    LeavesInput (fun st => (noteIgnored st words, ())) st := by
  unfold noteIgnored
  by_cases h : words = []
  · simp only [if_pos h]
    exact .pure ()
  · simp only [if_neg h]
    exact .note _ ()

/-- Runs a command once it is known what its streams are. -/
def runOpened (sh : Shell) (d : Dispatched) (held : List Address) :
    Except TargetError Streams → State → State × Except LineError ExitCode
  | .error e => fun st => (st, .error (.redirect e))
  | .ok streams => d.runHolding sh.platform held streams

theorem runRedirected_eq_runOpened (sh : Shell) (d : Dispatched) (r : Option Redirection)
    (streams : Streams) (st : State) :
    sh.runRedirected d r streams st =
      sh.runOpened d (held r streams) (openStreams r streams st).2
        (openStreams r streams st).1 := by
  rw [runRedirected_eq]
  rcases openStreams r streams st with ⟨st', e | streams'⟩
  · rfl
  · rfl

theorem leavesInput_runRedirected {sh : Shell} {d : Dispatched}
    (hd : d.IgnoresInput sh.platform) (r : Option Redirection) (streams : Streams) (st : State) :
    LeavesInput (sh.runRedirected d r streams) st := by
  rw [show sh.runRedirected d r streams = fun st =>
    sh.runOpened d (held r streams) (openStreams r streams st).2 (openStreams r streams st).1 from
    funext (sh.runRedirected_eq_runOpened d r streams)]
  refine (leavesInput_openStreams r streams st).bind (sh.runOpened d (held r streams)) ?_
  rcases (openStreams r streams st).2 with e | streams'
  · exact .pure _
  · exact Dispatched.leavesInput_runHolding hd _ streams' _

/-- The command that the line denotes, if it denotes one and it is found, does not read. -/
def IgnoresInput (sh : Shell) (line : Text) (st : State) : Prop :=
  ∀ (c : Command) (d : Dispatched), c.IsDenotedBy line → sh.dispatch st c.argv = .ok d →
    d.IgnoresInput sh.platform

theorem dispatch_resume (sh : Shell) (st : State) (input : Input) (transcript : List Record)
    (argv : List Text) : sh.dispatch (st.resume input transcript) argv = sh.dispatch st argv := by
  cases argv with
  | nil => rfl
  | cons name args => rfl

theorem ignoresInput_of_programs {sh : Shell} (hsh : sh.builtins.OfBuiltins) {line : Text}
    {st : State} (h : ∀ (c : Command) (call : ProgramCall), c.IsDenotedBy line →
      sh.dispatch st c.argv = .ok (.program call) →
      ∀ streams st', call.IgnoresInput sh.platform streams st') : sh.IgnoresInput line st := by
  intro c d hline hd
  obtain ⟨name, args, hargv, ⟨action, rfl, hbuiltin⟩ | ⟨call, rfl, -⟩⟩ := dispatch_cases hd
  · obtain ⟨b, -, rfl⟩ := exists_of_builtin? hsh hbuiltin
    exact b.leavesInput_action args
  · exact h c call hline hd

theorem leavesInput_runCommand {sh : Shell} {c : Command} {st : State}
    (h : ∀ d, sh.dispatch st c.argv = .ok d → d.IgnoresInput sh.platform) (streams : Streams) :
    LeavesInput (sh.runCommand c streams) st := by
  rcases hd : sh.dispatch st c.argv with e | d
  · refine (LeavesInput.pure (.error e)).congr ?_
    intro input transcript
    simp only [runCommand, dispatch_resume, hd]
  · have hnote : LeavesInput (fun st => (st.note d.event, ())) st := .note _ _
    refine (hnote.bind (fun _ => sh.runRedirected d c.redirection streams)
      (leavesInput_runRedirected (h d hd) _ _ _)).congr ?_
    intro input transcript
    simp only [runCommand, dispatch_resume, hd]

theorem leavesInput_runLine {sh : Shell} {line : Text} {st : State} (h : sh.IgnoresInput line st)
    (streams : Streams) : LeavesInput (sh.runLine line streams) st := by
  rcases hlex : Token.ofLine line with e | ts
  · refine (LeavesInput.pure (.error (.lexing e))).congr ?_
    intro input transcript
    exact runLine_of_lexError hlex sh streams _
  rcases hparse : Command.parse ts with e | _ | p
  · refine (LeavesInput.note (.tokenized ts) (.error (.parsing e))).congr ?_
    intro input transcript
    exact runLine_of_parseError hlex hparse sh streams _
  · refine (LeavesInput.note (.tokenized ts) (.ok 0)).congr ?_
    intro input transcript
    simp only [runLine, hlex, runTokens, hparse]
  · have hcommand : p.command.IsDenotedBy line := by
      refine ⟨ts, hlex, ?_⟩
      rw [Command.ofTokens, hparse]
      rfl
    have hnote : LeavesInput (fun st => (st.note (.tokenized ts), ())) st := .note _ _
    have hnotes := hnote.bind (fun _ st => (noteIgnored st p.ignored, ()))
      (leavesInput_noteIgnored p.ignored _)
    refine (hnotes.bind (fun _ => sh.runCommand p.command streams) ?_).congr ?_
    · refine leavesInput_runCommand ?_ streams
      intro d hd
      rw [dispatch_noteIgnored, dispatch_note] at hd
      exact h _ d hcommand hd
    · intro input transcript
      simp only [runLine, hlex, runTokens, hparse]

/-- The result of a line, as it is reported. -/
def told : Except LineError ExitCode → State → State × Option ExitCode
  | .ok code => fun st => (st, some code)
  | .error e => fun st =>
    ((st.note (.lineFailed e)).tryWrite (.own .err) (Text.line e.message),
      if st.refusal? (.own .err) = none then some e.exitCode else none)

theorem report_eq (sh : Shell) (line : Text) (st : State) :
    sh.report line st = told (sh.runLine line .own st).2 (sh.runLine line .own st).1 := by
  unfold report
  rcases sh.runLine line .own st with ⟨st', e | code⟩
  · have hnote : (st'.note (.lineFailed e)).refusal? (.own .err) = st'.refusal? (.own .err) := rfl
    have hline : Text.line e.message ≠ [] := by simp [Text.line]
    simp only [told, State.tryWrite, State.write, hnote]
    rcases st'.refusal? (.own .err) with _ | cause
    · rfl
    · simp only [if_neg hline]
      rfl
  · rfl

/-- A line leaves the input if its command does not read. -/
theorem leavesInput_report {sh : Shell} {line : Text} {st : State} (h : sh.IgnoresInput line st) :
    LeavesInput (sh.report line) st := by
  rw [show sh.report line = fun st =>
    told (sh.runLine line .own st).2 (sh.runLine line .own st).1 from
    funext (sh.report_eq line)]
  refine (leavesInput_runLine h .own).bind told ?_
  rcases (sh.runLine line .own st).2 with e | code
  · let next : Unit → State → State × Option ExitCode := fun _ st =>
      (st.tryWrite (.own .err) (Text.line e.message),
        if st.refusal? (.own .err) = none then some e.exitCode else none)
    have hnote :
        LeavesInput (fun st => (st.note (.lineFailed e), ())) (sh.runLine line .own st).1 :=
      .note _ _
    exact hnote.bind next ((leavesInput_write (.own .err) (Text.line e.message) _).map
      fun refusal? => if refusal? = none then some e.exitCode else none)
  · exact .pure _

end Shell

end CommandShell
