import CommandShell.Repl
import CommandShell.Proofs.Shell.Environment
import CommandShell.Proofs.Shell.Input

/-!
# Reading lines until a request

Reading takes the lines of the input one after the other, and what a line leaves to the
next is a state and a status. So a session is the run of its lines (`Shell.runAll`) up to
the first behind which there is a request to exit (`Shell.RequestsFirst`), or of all of
them. Lines whose commands do not read can be run at any place of the input
(`LeavesInput`), which is what makes the two comparable: the one reads while it runs.

A plain terminal has one more effect: the prompt stands in front of what each line writes
(`Shell.typescript`). The loop also ends where the prompt cannot be written, and where a line
fails and that cannot be told; `Shell.Heard` says that neither happens.

The main statement is `Shell.repl_stops_at_first_request`.
-/

namespace CommandShell

namespace Input

/-- The lines that are read from an input one after the other, and what they leave. -/
inductive Gives : Input → List Text → Input → Prop
  | nil (i : Input) : Gives i [] i
  | cons {i rest : Input} {lines : List Text} (htorn : i.endsTorn = false)
      (hline : i.readLine.1 ≠ []) (h : Gives i.readLine.2 lines rest) :
      Gives i (LineEdit.applyBackspaces (LineEdit.chomp i.readLine.1) :: lines) rest

/-- There is nothing more to read. -/
def Ends (i : Input) : Prop := i.text = [] ∧ i.torn = false

theorem text_readLine (i : Input) : i.readLine.1 ++ i.readLine.2.text = i.text :=
  append_cutLine i.text

theorem length_readLine (i : Input) :
    i.readLine.1.length + i.readLine.2.text.length = i.text.length := by
  rw [← List.length_append, text_readLine]

theorem Ends.readLine_eq {i : Input} (h : i.Ends) : i.readLine = ([], i) := by
  obtain ⟨_, ahead, torn⟩ := i
  obtain ⟨rfl, rfl⟩ := h
  rfl

theorem Gives.of_readLine {i i' rest : Input} {t line : Text} {lines : List Text}
    (hread : i.readLine = (t, i')) (htorn : i.endsTorn = false) (ht : t ≠ [])
    (hline : LineEdit.applyBackspaces (LineEdit.chomp t) = line) (h : i'.Gives lines rest) :
    i.Gives (line :: lines) rest := by
  obtain ⟨rfl, rfl⟩ : i.readLine.1 = t ∧ i.readLine.2 = i' := by rw [hread]; exact ⟨rfl, rfl⟩
  rw [← hline]
  exact .cons htorn ht h

theorem Gives.append {i middle rest : Input} {front back : List Text} (h : i.Gives front middle)
    (h' : middle.Gives back rest) : i.Gives (front ++ back) rest := by
  induction h with
  | nil => exact h'
  | cons htorn hline h ih => exact .cons htorn hline (ih h')

/-- Each line takes at least one character. -/
theorem Gives.length_le {i rest : Input} {lines : List Text} (h : i.Gives lines rest) :
    lines.length ≤ i.text.length := by
  induction h with
  | nil => exact Nat.zero_le _
  | @cons i rest lines htorn hline h ih =>
      have hlength := i.length_readLine
      have hpos := List.length_pos_iff.2 hline
      rw [List.length_cons]
      omega

/-- A line that is read as it was written. -/
def IsPlainLine (line : Text) : Prop :=
  '\n' ∉ line ∧ line.getLast? ≠ some '\r' ∧ LineEdit.backspace ∉ line

instance (line : Text) : Decidable (IsPlainLine line) := inferInstanceAs (Decidable (_ ∧ _ ∧ _))

theorem readLine_line {line : Text} (h : '\n' ∉ line) (t : Text) (ahead : Nat) :
    (Input.mk (Text.line line ++ t) ahead false).readLine =
      (Text.line line, ⟨t, aheadAfter ahead (Text.utf8Size (Text.line line)), false⟩) := by
  have hcut : cutLine (Text.line line ++ t) = (Text.line line, t) := by
    rw [Text.line, List.append_assoc, cutLine_append_of_not_mem h]
    rfl
  simp only [readLine, hcut]

/-- Any lines can be read, if they are written out. -/
theorem exists_gives_flatMap {lines : List Text} (h : ∀ line ∈ lines, IsPlainLine line)
    (ahead : Nat) :
    ∃ rest, (Input.mk (lines.flatMap Text.line) ahead false).Gives lines rest ∧ rest.Ends := by
  induction lines generalizing ahead with
  | nil => exact ⟨_, .nil _, rfl, rfl⟩
  | cons line lines ih =>
      obtain ⟨hnewline, hreturn, hback⟩ := h line List.mem_cons_self
      obtain ⟨rest, hgives, hends⟩ := ih (fun l hl => h l (List.mem_cons_of_mem _ hl))
        (aheadAfter ahead (Text.utf8Size (Text.line line)))
      refine ⟨rest, .of_readLine (readLine_line hnewline _ ahead) rfl ?_ ?_ hgives, hends⟩
      · simp [Text.line]
      · rw [Text.line, LineEdit.chomp_append_newline hreturn,
          LineEdit.applyBackspaces_of_not_mem hback]

end Input

/-- Where the prompt is shown, it is taken. -/
def State.TakesPrompt (st : State) : Prop :=
  Terminal.isPlain st.inherited = true → st.refusal? (.own .out) = none

namespace Shell

/-- Runs lines one after the other, where `last` is the status of the line before. -/
def runAll (sh : Shell) : List Text → ExitCode → State → State × ExitCode
  | [], last, st => (st, last)
  | line :: lines, _, st =>
    sh.runAll lines (sh.runReporting line st).2 (sh.runReporting line st).1

/-- As many lines are the first behind which there is a request to exit. What there was
before the first of them does not count. -/
structure RequestsFirst (sh : Shell) (lines : List Text) (st : State) (k : Nat) (c : ExitCode) :
    Prop where
  pos : 0 < k
  le : k ≤ lines.length
  requested : (sh.runAll (lines.take k) 0 st).1.env.requestedExit = some c
  first : ∀ j, 0 < j → j < k → (sh.runAll (lines.take j) 0 st).1.env.requestedExit = none

/-- The lines that are run until there is a request leave the input. -/
def LeaveInput (sh : Shell) : List Text → State → Prop
  | [], _ => True
  | line :: lines, st =>
    LeavesInput (sh.report line) st ∧
      ((sh.runReporting line st).1.env.requestedExit = none →
        sh.LeaveInput lines (sh.runReporting line st).1)

/-- The prompt in front of the lines that are run until there is a request is taken, and each
of them that fails can be told about. -/
def Heard (sh : Shell) : List Text → State → Prop
  | [], st => st.TakesPrompt
  | line :: lines, st =>
    st.TakesPrompt ∧ (sh.report line st).2 ≠ none ∧
      ((sh.runReporting line st).1.env.requestedExit = none →
        sh.Heard lines (sh.runReporting line st).1)

theorem Heard.takesPrompt {sh : Shell} {lines : List Text} {st : State} (h : sh.Heard lines st) :
    st.TakesPrompt := by
  cases lines with
  | nil => exact h
  | cons line lines => exact h.1

theorem report_of_ne_none {sh : Shell} {line : Text} {st : State}
    (h : (sh.report line st).2 ≠ none) :
    sh.report line st = ((sh.runReporting line st).1, some (sh.runReporting line st).2) := by
  rw [runReporting]
  generalize sh.report line st = r at h ⊢
  obtain ⟨st', _ | code⟩ := r
  · exact absurd rfl h
  · rfl

theorem leaveInput_of_ignoresInput {sh : Shell} {lines : List Text}
    (h : ∀ line ∈ lines, ∀ st, sh.IgnoresInput line st) (st : State) : sh.LeaveInput lines st := by
  induction lines generalizing st with
  | nil => trivial
  | cons line lines ih =>
      refine ⟨leavesInput_report (h line List.mem_cons_self st), fun _ => ih ?_ _⟩
      intro line' hline'
      exact h line' (List.mem_cons_of_mem _ hline')

/-- Standard commands, and programs that all do the same and do not read. -/
theorem leaveInput_constant {o : Outcome} (h : o.readsInput = false) (lines : List Text)
    (st : State) : LeaveInput ⟨.standard, .constant o⟩ lines st := by
  refine leaveInput_of_ignoresInput ?_ st
  intro line _ st'
  refine ignoresInput_of_programs CommandTable.ofBuiltins_standard ?_
  intro c call _ _ streams st''
  exact ProgramCall.ignoresInput_constant h call streams st''

/-- What a line writes to a standard stream. -/
def written (sh : Shell) (line : Text) (s : Stream) (st : State) : Text :=
  (sh.runReporting line (st.resume st.input [])).1.output s

/-- What lines write to a standard stream, each behind the text that is shown in front of
it. -/
def typescript (sh : Shell) (shown : State → Text) (s : Stream) : List Text → State → Text
  | [], _ => []
  | line :: lines, st =>
    shown st ++ sh.written line s st ++ sh.typescript shown s lines (sh.runReporting line st).1

/-- What reading writes by itself: on a plain terminal the prompt. -/
def promptText (prompt : Text) (s : Stream) (st : State) : Text :=
  if Terminal.isPlain st.inherited = true ∧ s = .out then prompt else []

theorem promptText_of_not_isPlain {st : State} (h : Terminal.isPlain st.inherited = false)
    {prompt : Text} {s : Stream} : promptText prompt s st = [] :=
  if_neg (by simp [h])

/-- The state is the one that the lines leave, with the rest of the input, and with what
reading wrote in front of each line and behind them all. -/
structure LeftBy (sh : Shell) (prompt : Text) (lines : List Text) (closing : Stream → Text)
    (st st' : State) : Prop extends (sh.runAll lines 0 st).1.SameSession st' where
  tree : st'.tree = (sh.runAll lines 0 st).1.tree
  input : st.input.Gives lines st'.input
  output : ∀ s, st'.output s =
    st.output s ++ sh.typescript (promptText prompt s) s lines st ++ closing s
  /-- What the lines write themselves. -/
  outputOfLines : ∀ s, (sh.runAll lines 0 st).1.output s =
    st.output s ++ sh.typescript (fun _ => []) s lines st
  /-- On any other terminal nothing else is written. -/
  unprompted : sh.builtins.OfBuiltins → Terminal.isPlain st.inherited = false →
    ∀ s, st'.output s = (sh.runAll lines 0 st).1.output s

/-- What comes of the loop behind a line. -/
def afterLine (sh : Shell) (prompt : Text) (bound : Nat) (r : State × ExitCode) :
    State × ExitCode :=
  match r.1.env.requestedExit with
  | some c => (r.1, c)
  | none => sh.loop prompt bound r.2 r.1

/-- What comes of it behind a line that may have failed without being told about. -/
def afterReport (sh : Shell) (prompt : Text) (bound : Nat) (r : State × Option ExitCode) :
    State × ExitCode :=
  match r with
  | (st, none) => (st, abortedStatus)
  | (st, some code) => sh.afterLine prompt bound (st, code)

/-- The text that entries of the transcript write to a stream. -/
def textOf (s : Stream) (records : List Record) : Text := records.flatMap (State.recordText s)

theorem output_resume (st : State) (input : Input) (transcript : List Record) (s : Stream) :
    (st.resume input transcript).output s = textOf s transcript := rfl

theorem textOf_append (s : Stream) (r r' : List Record) :
    textOf s (r ++ r') = textOf s r ++ textOf s r' := List.flatMap_append

/-- What reading notes and writes by itself. -/
def promptRecords (prompt : Text) (st : State) : List Record :=
  if Terminal.isPlain st.inherited then [.noted .plainTerminal, .written .out prompt]
  else [.noted .readingPlainInput]

theorem textOf_promptRecords (prompt : Text) (st : State) (s : Stream) :
    textOf s (promptRecords prompt st) = promptText prompt s st := by
  by_cases hplain : Terminal.isPlain st.inherited = true
  · cases s <;> simp [promptRecords, textOf, State.recordText, promptText, hplain]
  · simp [promptRecords, textOf, State.recordText, promptText, hplain]

theorem prompting_resume {st : State} (h : st.TakesPrompt) (prompt : Text) (input : Input)
    (transcript : List Record) : prompting prompt (st.resume input transcript) =
      (st.resume input (transcript ++ promptRecords prompt st), .ok ()) := by
  have hinherited : (st.resume input transcript).inherited = st.inherited := rfl
  by_cases hplain : Terminal.isPlain st.inherited = true
  · have htaken := fun st' (hst : State.SameSession st st') => (hst.refusal?_eq _).trans (h hplain)
    have hprint := State.print_of_taken (htaken ((st.resume input transcript).note .plainTerminal)
      ⟨rfl, rfl, rfl, rfl, fun _ => rfl⟩) [prompt]
    have hflush := State.flushRefusal?_of_taken (htaken
      (((st.resume input transcript).note .plainTerminal).put (.own .out) [prompt].flatten)
      ⟨rfl, rfl, rfl, rfl, fun _ => rfl⟩)
    simp only [prompting, hinherited, hplain, if_true, hprint, State.flush, List.findSome?_cons,
      List.findSome?_nil, hflush]
    simp [promptRecords, State.put, State.resume, State.note, State.emit, hplain]
  · simp [prompting, promptRecords, State.resume, State.note, hplain]

/-- Reading behind what it writes by itself. -/
theorem readLine_of_prompting {prompt : Text} {st st' : State}
    (h : prompting prompt st = (st', .ok ()))
    (htorn : st'.input.endsTorn = false) :
    readLine prompt st = ({ st' with input := st'.input.readLine.2 },
      if st'.input.readLine.1 = [] then .ended
      else .line (LineEdit.applyBackspaces (LineEdit.chomp st'.input.readLine.1))) := by
  simp only [readLine, h, htorn, Bool.false_eq_true, if_false]
  rcases st'.input.readLine with ⟨_ | ⟨c, t⟩, i⟩
  · rfl
  · rfl

/-- The loop reads a line and goes on with what it leaves. -/
theorem loop_resume_of_line (sh : Shell) {i : Input} (htorn : i.endsTorn = false)
    (hline : i.readLine.1 ≠ []) {st : State} (hst : st.TakesPrompt) (prompt : Text) (bound : Nat)
    (last : ExitCode) (transcript : List Record) :
    sh.loop prompt (bound + 1) last (st.resume i transcript) =
      sh.afterReport prompt bound
        (sh.report (LineEdit.applyBackspaces (LineEdit.chomp i.readLine.1))
          (st.resume i.readLine.2 (transcript ++ promptRecords prompt st))) := by
  have hread : readLine prompt (st.resume i transcript) =
      (st.resume i.readLine.2 (transcript ++ promptRecords prompt st),
        .line (LineEdit.applyBackspaces (LineEdit.chomp i.readLine.1))) := by
    rw [readLine_of_prompting (prompting_resume hst prompt i transcript) htorn]
    exact Prod.ext rfl (if_neg hline)
  simp only [loop, hread, afterReport]
  rfl

/-- At the end of the input there is one more attempt to read. -/
theorem loop_resume_of_ends (sh : Shell) {i : Input} (h : i.Ends) {st : State}
    (hst : st.TakesPrompt) (prompt : Text) (bound : Nat) (last : ExitCode)
    (transcript : List Record) :
    sh.loop prompt (bound + 1) last (st.resume i transcript) =
      (st.resume i (transcript ++ promptRecords prompt st), last) := by
  have htorn : i.endsTorn = false := by rw [Input.endsTorn, h.2, Bool.false_and]
  have hread : readLine prompt (st.resume i transcript) =
      (st.resume i (transcript ++ promptRecords prompt st), .ended) := by
    rw [readLine_of_prompting (prompting_resume hst prompt i transcript) htorn]
    simp only [State.input_resume, h.readLine_eq, if_true]
    rfl
  simp only [loop, hread]

/-- What a line adds to the history has the texts that it writes. -/
theorem textOf_added {sh : Shell} {line : Text} {st : State} {added : List Record}
    (h : ∀ input transcript, sh.report line (st.resume input transcript) =
      ((sh.report line st).1.resume input (transcript ++ added), (sh.report line st).2))
    (s : Stream) : textOf s added = sh.written line s st := by
  rw [written, runReporting, h]
  exact (output_resume _ _ _ _).symm

/-- One line is read and run, at any place of the input where it stands. -/
theorem exists_loop_succ {sh : Shell} {line : Text} {lines : List Text} {i rest : Input}
    (hgives : i.Gives (line :: lines) rest) {st : State}
    (hleave : LeavesInput (sh.report line) st) (hst : st.TakesPrompt)
    (hheard : (sh.report line st).2 ≠ none) (prompt : Text) :
    ∃ (i' : Input) (added : List Record), i.Gives [line] i' ∧ i'.Gives lines rest ∧
      (∀ s, textOf s added = promptText prompt s st ++ sh.written line s st) ∧
      ∀ bound last transcript, sh.loop prompt (bound + 1) last (st.resume i transcript) =
        sh.afterLine prompt bound ((sh.runReporting line st).1.resume i' (transcript ++ added),
          (sh.runReporting line st).2) := by
  cases hgives with
  | cons htorn hline hgives =>
      obtain ⟨added, -, hrun⟩ := hleave.run_resume
      refine ⟨i.readLine.2, promptRecords prompt st ++ added, .cons htorn hline (.nil _), hgives,
        ?_, ?_⟩
      · intro s
        rw [textOf_append, textOf_promptRecords, textOf_added hrun]
      · intro bound last transcript
        rw [loop_resume_of_line sh htorn hline hst, hrun, report_of_ne_none hheard,
          List.append_assoc, afterReport]

/-- Behind none of the lines is there a request. -/
def RequestsNothing (sh : Shell) (lines : List Text) (st : State) : Prop :=
  ∀ j, 0 < j → j ≤ lines.length → (sh.runAll (lines.take j) 0 st).1.env.requestedExit = none

theorem runAll_fst (sh : Shell) (lines : List Text) (last last' : ExitCode) (st : State) :
    (sh.runAll lines last st).1 = (sh.runAll lines last' st).1 := by
  cases lines with
  | nil => rfl
  | cons line lines => rfl

theorem requestsNothing_cons {sh : Shell} {line : Text} {lines : List Text} {st : State} :
    sh.RequestsNothing (line :: lines) st ↔
      (sh.runReporting line st).1.env.requestedExit = none ∧
        sh.RequestsNothing lines (sh.runReporting line st).1 := by
  constructor
  · intro h
    refine ⟨h 1 (by omega) (by simp), ?_⟩
    intro j hpos hle
    have hj := h (j + 1) (by omega) (by simpa using hle)
    rw [List.take_succ_cons, runAll] at hj
    rwa [sh.runAll_fst _ _ 0] at hj
  · rintro ⟨hfirst, hrest⟩ (_ | _ | j) hpos hle
    · exact absurd hpos (Nat.lt_irrefl 0)
    · exact hfirst
    · rw [List.take_succ_cons, runAll, sh.runAll_fst _ _ 0]
      exact hrest (j + 1) (by omega) (by simpa using hle)

theorem runAll_append (sh : Shell) (front back : List Text) (last : ExitCode) (st : State) :
    sh.runAll (front ++ back) last st =
      sh.runAll back (sh.runAll front last st).2 (sh.runAll front last st).1 := by
  induction front generalizing last st with
  | nil => rfl
  | cons line front ih =>
      rw [List.cons_append, runAll, runAll, ih]

theorem typescript_append (sh : Shell) (shown : State → Text) (s : Stream)
    (front back : List Text) (st : State) :
    sh.typescript shown s (front ++ back) st =
      sh.typescript shown s front st ++ sh.typescript shown s back (sh.runAll front 0 st).1 := by
  induction front generalizing st with
  | nil => rfl
  | cons line front ih =>
      rw [List.cons_append, typescript, typescript, runAll, ih,
        sh.runAll_fst front (sh.runReporting line st).2 0]
      simp only [List.append_assoc]

/-- Lines behind none of which there is a request are read and run, and the loop goes on
behind them. -/
theorem exists_loop_add {sh : Shell} {front back : List Text} {i rest : Input}
    (hgives : i.Gives (front ++ back) rest) {st : State} (hleave : sh.LeaveInput (front ++ back) st)
    (hheard : sh.Heard (front ++ back) st) (hnothing : sh.RequestsNothing front st)
    (prompt : Text) :
    ∃ (i' : Input) (added : List Record), i.Gives front i' ∧ i'.Gives back rest ∧
      sh.LeaveInput back (sh.runAll front 0 st).1 ∧ sh.Heard back (sh.runAll front 0 st).1 ∧
      (∀ s, textOf s added = sh.typescript (promptText prompt s) s front st) ∧
      ∀ bound last transcript,
        sh.loop prompt (bound + front.length) last (st.resume i transcript) =
          sh.loop prompt bound (sh.runAll front last st).2
            ((sh.runAll front 0 st).1.resume i' (transcript ++ added)) := by
  induction front generalizing i st with
  | nil =>
      refine ⟨i, [], .nil i, hgives, hleave, hheard, fun _ => rfl, ?_⟩
      intro bound last transcript
      rw [List.append_nil]
      rfl
  | cons line front ih =>
      obtain ⟨hnone, hnothing⟩ := requestsNothing_cons.1 hnothing
      obtain ⟨middle, shown, hfirst, hgives, hshown, hline⟩ :=
        exists_loop_succ hgives hleave.1 hheard.1 hheard.2.1 prompt
      obtain ⟨i', added, hfront, hback, hleave, hheard, hadded, hloop⟩ :=
        ih hgives (hleave.2 hnone) (hheard.2.2 hnone) hnothing
      rw [sh.runAll_fst front 0 (sh.runReporting line st).2] at hleave hheard hloop
      refine ⟨i', shown ++ added, hfirst.append hfront, hback, hleave, hheard, ?_, ?_⟩
      · intro s
        rw [textOf_append, hshown, hadded, typescript]
      · intro bound last transcript
        rw [List.length_cons, ← Nat.add_assoc, hline]
        simp only [afterLine, State.env_resume, hnone, hloop, List.append_assoc]
        rfl

theorem output_runReporting {sh : Shell} {line : Text} {st : State}
    (h : LeavesInput (sh.report line) st) (s : Stream) :
    (sh.runReporting line st).1.output s = st.output s ++ sh.written line s st := by
  obtain ⟨added, htranscript, hrun⟩ := h.run_resume
  change (sh.report line st).1.output s = _
  rw [State.output, htranscript, List.flatMap_append, ← textOf_added hrun]
  rfl

theorem output_runAll {sh : Shell} {front back : List Text} {st : State}
    (hleave : sh.LeaveInput (front ++ back) st) (hnothing : sh.RequestsNothing front st)
    (s : Stream) :
    (sh.runAll front 0 st).1.output s =
      st.output s ++ sh.typescript (fun _ => []) s front st := by
  induction front generalizing st with
  | nil => exact (List.append_nil _).symm
  | cons line front ih =>
      obtain ⟨hnone, hnothing⟩ := requestsNothing_cons.1 hnothing
      rw [runAll, sh.runAll_fst front _ 0, ih (hleave.2 hnone) hnothing,
        output_runReporting hleave.1, typescript, List.nil_append, List.append_assoc]

/-- To tell that a line failed changes nothing of the session. -/
theorem sameSession_runReporting (sh : Shell) (line : Text) (st : State) :
    (sh.runLine line .own st).1.SameSession (sh.runReporting line st).1 := by
  change State.SameSession _ (sh.report line st).1
  rw [report_eq]
  rcases sh.runLine line .own st with ⟨st', e | code⟩
  · exact ((State.OnlyNotes.refl st').note (.lineFailed e)).toSameSession.trans
      (State.sameSession_tryWrite _ _ _)
  · exact .refl st'

section

variable {sh : Shell} (hsh : sh.builtins.OfBuiltins)
include hsh

theorem inherited_runReporting (line : Text) (st : State) :
    (sh.runReporting line st).1.inherited = st.inherited :=
  (sameSession_runReporting sh line st).inherited.trans (inherited_runLine hsh line .own st)

theorem refusal_runReporting (line : Text) (st : State) (s : Stream) :
    (sh.runReporting line st).1.standard.refusal? s = st.standard.refusal? s :=
  ((sameSession_runReporting sh line st).refusal s).trans (refusal_runLine hsh line .own st s)

/-- Streams that take what they get can be told everything. -/
theorem heard_of_taken {st : State} (herr : st.refusal? (.own .err) = none)
    (hst : st.TakesPrompt) (lines : List Text) : sh.Heard lines st := by
  induction lines generalizing st with
  | nil => exact hst
  | cons line lines ih =>
      refine ⟨hst, ?_, fun _ => ih ?_ ?_⟩
      · have hline : (sh.runLine line .own st).1.refusal? (.own .err) = none :=
          (refusal_runLine hsh line .own st .err).trans herr
        rw [report_eq]
        rcases (sh.runLine line .own st).2 with e | code
        · simp [told, hline]
        · simp [told]
      · exact (refusal_runReporting hsh line st .err).trans herr
      · intro hplain
        rw [inherited_runReporting hsh] at hplain
        exact (refusal_runReporting hsh line st .out).trans (hst hplain)

theorem inherited_runAll (lines : List Text) (last : ExitCode) (st : State) :
    (sh.runAll lines last st).1.inherited = st.inherited := by
  induction lines generalizing last st with
  | nil => rfl
  | cons line lines ih => rw [runAll, ih, inherited_runReporting hsh]

theorem typescript_promptText {st : State} (h : Terminal.isPlain st.inherited = false)
    (prompt : Text) (s : Stream) (lines : List Text) :
    sh.typescript (promptText prompt s) s lines st = sh.typescript (fun _ => []) s lines st := by
  induction lines generalizing st with
  | nil => rfl
  | cons line lines ih =>
      rw [typescript, typescript, ih (by rw [inherited_runReporting hsh, h]),
        promptText_of_not_isPlain h]

end

theorem leftBy_resume {sh : Shell} {prompt : Text} {lines : List Text} {closing : Stream → Text}
    {st : State} {i : Input} {e : Event} {added : List Record} (hinput : st.input.Gives lines i)
    (hadded : ∀ s, textOf s added =
      sh.typescript (promptText prompt s) s lines st ++ closing s)
    (houtput : ∀ s, (sh.runAll lines 0 st).1.output s =
      st.output s ++ sh.typescript (fun _ => []) s lines st)
    (hclosing : Terminal.isPlain (sh.runAll lines 0 st).1.inherited = false →
      ∀ s, closing s = []) :
    sh.LeftBy prompt lines closing st
      ((sh.runAll lines 0 st).1.resume i (st.transcript ++ [.noted e] ++ added)) := by
  have hshown : ∀ s, ((sh.runAll lines 0 st).1.resume i
      (st.transcript ++ [.noted e] ++ added)).output s =
      st.output s ++ sh.typescript (promptText prompt s) s lines st ++ closing s := by
    intro s
    rw [output_resume, textOf_append, textOf_append, hadded, ← List.append_assoc]
    simp [State.output, textOf, State.recordText]
  refine { State.sameSession_resume _ _ _ with
    tree := rfl, input := hinput, output := hshown, outputOfLines := houtput, unprompted := ?_ }
  intro hsh hplain s
  rw [hshown, houtput, typescript_promptText hsh hplain,
    hclosing (by rw [inherited_runAll hsh, hplain]), List.append_nil]

/-- The loop of a session whose input gives the lines, from its first line on. -/
theorem repl_eq (sh : Shell) {st : State} {lines : List Text} {rest : Input}
    (hgives : st.input.Gives lines rest) (prompt : Text) : ∃ (bound : Nat) (e : Event),
      sh.repl prompt st = sh.loop prompt (bound + 1 + lines.length) 0
        (st.resume st.input (st.transcript ++ [.noted e])) := by
  have hle := hgives.length_le
  have hall : st.input.text.length ≤ st.input.all.length := by simp [Input.all]
  refine ⟨st.input.all.length - lines.length,
    .measuredTerminal (Terminal.clusterDisplay st.inherited), ?_⟩
  rw [show st.input.all.length - lines.length + 1 + lines.length = st.input.all.length + 1 by omega]
  rfl

namespace RequestsFirst

variable {sh : Shell} {st : State} {k : Nat} {c : ExitCode}

theorem exists_eq {lines : List Text} (h : sh.RequestsFirst lines st k c) :
    ∃ front line back, lines = front ++ line :: back ∧ k = front.length + 1 := by
  have hk := Nat.sub_add_cancel h.pos
  have hlt : k - 1 < lines.length := by
    have hle := h.le
    omega
  refine ⟨lines.take (k - 1), lines[k - 1], lines.drop k, ?_, ?_⟩
  · have hdrop := List.drop_eq_getElem_cons hlt
    rw [hk] at hdrop
    rw [← hdrop, List.take_append_drop]
  · rw [List.length_take, Nat.min_eq_left (Nat.le_of_lt hlt), hk]

/-- The lines in front leave no request, and the next line does. -/
theorem of_append {front back : List Text} {line : Text}
    (h : sh.RequestsFirst (front ++ line :: back) st (front.length + 1) c) :
    sh.RequestsNothing front st ∧
      (sh.runReporting line (sh.runAll front 0 st).1).1.env.requestedExit = some c := by
  constructor
  · intro j hpos hle
    have hj := h.first j hpos (Nat.lt_succ_of_le hle)
    rwa [List.take_append_of_le_length hle] at hj
  · have hrequested := h.requested
    rwa [List.take_append, List.take_of_length_le (Nat.le_succ _), Nat.add_sub_cancel_left,
      List.take_succ_cons, List.take_zero, runAll_append] at hrequested

end RequestsFirst

/-- A request behind a line ends the session. -/
theorem repl_of_requestsFirst {sh : Shell} {st : State} {lines : List Text} {rest : Input}
    (hgives : st.input.Gives lines rest) (hleave : sh.LeaveInput lines st)
    (hheard : sh.Heard lines st) {k : Nat} {c : ExitCode} (h : sh.RequestsFirst lines st k c)
    (prompt : Text) :
    (sh.repl prompt st).2 = c ∧
      sh.LeftBy prompt (lines.take k) (fun _ => []) st (sh.repl prompt st).1 := by
  obtain ⟨front, line, back, rfl, rfl⟩ := h.exists_eq
  obtain ⟨hnothing, hrequested⟩ := h.of_append
  have htake : (front ++ line :: back).take (front.length + 1) = front ++ [line] := by
    simp [List.take_append, List.take_of_length_le]
  obtain ⟨bound, e, hrepl⟩ := repl_eq sh hgives prompt
  obtain ⟨middle, added, hfront, hgives, hleave', hheard', hadded, hloop⟩ :=
    exists_loop_add hgives hleave hheard hnothing prompt
  obtain ⟨i', added', hline, -, hadded', hloop'⟩ :=
    exists_loop_succ hgives hleave'.1 hheard'.1 hheard'.2.1 prompt
  have hlast : (sh.runAll (front ++ [line]) 0 st).1 =
      (sh.runReporting line (sh.runAll front 0 st).1).1 := by
    rw [runAll_append]
    rfl
  have hend : sh.repl prompt st = ((sh.runAll (front ++ [line]) 0 st).1.resume i'
      (st.transcript ++ [.noted e] ++ (added ++ added')), c) := by
    rw [hlast, hrepl, List.length_append, List.length_cons,
      show bound + 1 + (front.length + (back.length + 1)) =
        bound + back.length + 1 + 1 + front.length by omega, hloop, hloop']
    simp only [afterLine, State.env_resume, hrequested, List.append_assoc]
  rw [hend, htake]
  refine ⟨rfl, leftBy_resume (hfront.append hline) ?_ ?_ (fun _ _ => rfl)⟩
  · intro s
    rw [textOf_append, hadded, hadded', typescript_append, typescript, typescript,
      List.append_nil, List.append_nil]
  · intro s
    rw [hlast, output_runReporting hleave'.1, output_runAll hleave hnothing, typescript_append,
      typescript, typescript, List.nil_append, List.append_nil, List.append_assoc]

/-- Without a request all lines are run. -/
theorem repl_of_requestsNothing {sh : Shell} {st : State} {lines : List Text} {rest : Input}
    (hgives : st.input.Gives lines rest) (hends : rest.Ends) (hleave : sh.LeaveInput lines st)
    (hheard : sh.Heard lines st) (h : sh.RequestsNothing lines st) (prompt : Text) :
    (sh.repl prompt st).2 = (sh.runAll lines 0 st).2 ∧
      sh.LeftBy prompt lines (fun s => promptText prompt s (sh.runAll lines 0 st).1) st
        (sh.repl prompt st).1 := by
  obtain ⟨bound, e, hrepl⟩ := repl_eq sh hgives prompt
  rw [← List.append_nil lines] at hgives hleave hheard
  obtain ⟨middle, added, hfront, hgives, -, hheard, hadded, hloop⟩ :=
    exists_loop_add hgives hleave hheard h prompt
  obtain rfl : middle = rest := by cases hgives; rfl
  have hend : sh.repl prompt st = ((sh.runAll lines 0 st).1.resume middle
      (st.transcript ++ [.noted e] ++ (added ++ promptRecords prompt (sh.runAll lines 0 st).1)),
      (sh.runAll lines 0 st).2) := by
    rw [hrepl, hloop, loop_resume_of_ends sh hends hheard.takesPrompt, List.append_assoc _ added]
  rw [hend]
  refine ⟨rfl, leftBy_resume hfront ?_ (output_runAll hleave h) ?_⟩
  · intro s
    rw [textOf_append, hadded, textOf_promptRecords]
  · intro hplain s
    exact promptText_of_not_isPlain hplain

theorem RequestsFirst.cons {sh : Shell} {line : Text} {lines : List Text} {st : State} {k : Nat}
    {c : ExitCode} (hnone : (sh.runReporting line st).1.env.requestedExit = none)
    (h : sh.RequestsFirst lines (sh.runReporting line st).1 k c) :
    sh.RequestsFirst (line :: lines) st (k + 1) c where
  pos := Nat.succ_pos k
  le := Nat.succ_le_succ h.le
  requested := by
    rw [List.take_succ_cons, runAll, sh.runAll_fst _ _ 0]
    exact h.requested
  first := by
    rintro (_ | _ | j) hpos hlt
    · exact absurd hpos (Nat.lt_irrefl 0)
    · exact hnone
    · rw [List.take_succ_cons, runAll, sh.runAll_fst _ _ 0]
      exact h.first (j + 1) (Nat.succ_pos j) (Nat.lt_of_succ_lt_succ hlt)

theorem requestsNothing_or_requestsFirst (sh : Shell) (lines : List Text) (st : State) :
    sh.RequestsNothing lines st ∨ ∃ k c, sh.RequestsFirst lines st k c := by
  induction lines generalizing st with
  | nil => exact .inl fun j hpos hle => absurd (Nat.lt_of_lt_of_le hpos hle) (Nat.lt_irrefl 0)
  | cons line lines ih =>
      cases hfirst : (sh.runReporting line st).1.env.requestedExit with
      | some c =>
          refine .inr ⟨1, c, Nat.one_pos, Nat.succ_le_succ (Nat.zero_le _), hfirst, ?_⟩
          intro j hpos hlt
          omega
      | none =>
          obtain hnothing | ⟨k, c, hk⟩ := ih (sh.runReporting line st).1
          · exact .inl (requestsNothing_cons.2 ⟨hfirst, hnothing⟩)
          · exact .inr ⟨k + 1, c, hk.cons hfirst⟩

/-- A line that asks is one of `exit`, and it ends with the status that it asks for, unless its
streams cannot be flushed. -/
theorem isAskedBy_of_requestedExit {sh : Shell} (hsh : sh.builtins.OfBuiltins) {line : Text}
    {streams : Streams} {st : State} (hst : st.env.requestedExit = none) {c : ExitCode}
    (h : (sh.runLine line streams st).1.env.requestedExit = some c) :
    Exit.IsAskedBy c line ∧ st.Ends streams c (sh.runLine line streams st).2 := by
  have hkept : ∀ {s : State}, st.Stays s → s.env.requestedExit ≠ some c := by
    intro s hs hsome
    rw [hs.env, hst] at hsome
    cases hsome
  have hturns := turns_runLine hsh line streams st
  generalize sh.runLine line streams st = ran at h hturns ⊢
  obtain ⟨st', result⟩ := ran
  obtain ⟨⟨argv, r⟩, hline, s, hs, hstandard, hturns⟩ | hstays := hturns
  · cases hturns with
    | stays hs' => exact (hkept (hs.trans hs') h).elim
    | moves hargs hgoal hend => exact (hkept hs h).elim
    | asks hargs hend =>
        obtain rfl := Option.some.inj h
        exact ⟨⟨_, r, hline, Exit.of_ofArguments hargs⟩, hend.of_standard_eq hstandard⟩
  · exact (hkept hstays h).elim

/-- So a line that fails ends a session only if it asks to, and nothing else has failed but to
flush. -/
theorem exists_flush_error_of_requestsFirst {sh : Shell} (hsh : sh.builtins.OfBuiltins)
    {front back : List Text} {line : Text} {st : State} (hst : st.env.requestedExit = none)
    {e : LineError} (h : (sh.runLine line .own (sh.runAll front 0 st).1).2 = .error e)
    {c : ExitCode} (hfirst : sh.RequestsFirst (front ++ line :: back) st (front.length + 1) c) :
    Exit.IsAskedBy c line ∧ ∃ cause, e = .io cause ∧
      (sh.runAll front 0 st).1.flush [.own .out, .own .err] = .error cause := by
  obtain ⟨hnothing, hrequested⟩ := hfirst.of_append
  have hbefore : (sh.runAll front 0 st).1.env.requestedExit = none := by
    by_cases hfront : front = []
    · rw [hfront]
      exact hst
    · have hlast := hnothing front.length (List.length_pos_iff.2 hfront) le_rfl
      rwa [List.take_length] at hlast
  rw [(sameSession_runReporting sh line _).env] at hrequested
  obtain ⟨hasked, hend⟩ := isAskedBy_of_requestedExit hsh hbefore hrequested
  refine ⟨hasked, ?_⟩
  rw [h] at hend
  obtain hok | ⟨cause, hflush, hresult⟩ := hend
  · cases hok
  · exact ⟨cause, Except.error.inj hresult, hflush⟩

/-- A blank line has status zero. -/
theorem runReporting_of_isBlank {line : Text} (h : ∀ c ∈ line, Token.isBlank c = true) (sh : Shell)
    (st : State) : sh.runReporting line st = (st.note (.tokenized []), 0) := by
  have hlex : Token.ofLine line = .ok [] := by
    unfold Token.ofLine
    induction line with
    | nil => rfl
    | cons c line ih =>
        rw [Token.scan_blank_cons (h c List.mem_cons_self),
          ih fun d hd => h d (List.mem_cons_of_mem _ hd)]
        rfl
  rw [runReporting, report, runLine_nil hlex]
  rfl

/-- A session runs its lines up to the first behind which there is a request to exit, and ends with
the status that is asked for; without one it runs them all and ends with the status of the last. It
leaves what these lines leave, with nothing of the lines behind them. A line that fails is the one
that ends it only if it is an `exit` that could not flush what was kept back before, and a blank
line has status zero. -/
theorem repl_stops_at_first_request (sh : Shell) (prompt : Text) {st : State} {lines : List Text}
    {rest : Input} (hgives : st.input.Gives lines rest) (hends : rest.Ends)
    (hleave : sh.LeaveInput lines st) (hheard : sh.Heard lines st) :
    (∀ k c, sh.RequestsFirst lines st k c →
      (sh.repl prompt st).2 = c ∧
        sh.LeftBy prompt (lines.take k) (fun _ => []) st (sh.repl prompt st).1) ∧
    ((∀ k c, ¬ sh.RequestsFirst lines st k c) →
      (sh.repl prompt st).2 = (sh.runAll lines 0 st).2 ∧
        sh.LeftBy prompt lines (fun s => promptText prompt s (sh.runAll lines 0 st).1) st
          (sh.repl prompt st).1) ∧
    (sh.builtins.OfBuiltins → st.env.requestedExit = none → ∀ front line back e c,
      lines = front ++ line :: back →
      (sh.runLine line .own (sh.runAll front 0 st).1).2 = .error e →
      sh.RequestsFirst lines st (front.length + 1) c →
        Exit.IsAskedBy c line ∧ ∃ cause, e = .io cause ∧
          (sh.runAll front 0 st).1.flush [.own .out, .own .err] = .error cause) ∧
    ∀ line ∈ lines, (∀ c ∈ line, Token.isBlank c = true) →
      ∀ st', sh.runReporting line st' = (st'.note (.tokenized []), 0) := by
  refine ⟨?_, ?_, ?_, ?_⟩
  · intro k c h
    exact repl_of_requestsFirst hgives hleave hheard h prompt
  · intro h
    obtain hnothing | ⟨k, c, hfirst⟩ := sh.requestsNothing_or_requestsFirst lines st
    · exact repl_of_requestsNothing hgives hends hleave hheard hnothing prompt
    · exact absurd hfirst (h k c)
  · rintro hsh hst front line back e c rfl herror hfirst
    exact exists_flush_error_of_requestsFirst hsh hst herror hfirst
  · intro line _ hblank st'
    exact runReporting_of_isBlank hblank sh st'

/-- Lines that fail, run a program, ask to exit and are not run any more. -/
theorem repl_stops_at_exit :
    let sh : Shell := ⟨.standard, .constant ⟨"x\n".toList, [], .exited 7, false⟩⟩
    let lines := ["nope".toList, "tool".toList, "exit 3".toList, "echo later".toList]
    let st := sh.start ⟨[(["tool".toList], .file 0o755 (.program 0 []))]⟩ .root
      ⟨[("PATH".toList, "/".toList)]⟩ (lines.flatMap Text.line)
    ∃ rest, st.input.Gives lines rest ∧ rest.Ends ∧ sh.LeaveInput lines st ∧ sh.Heard lines st ∧
      sh.RequestsFirst lines st 3 3 ∧ (sh.repl "$ ".toList st).2 = 3 ∧
      sh.LeftBy "$ ".toList (lines.take 3) (fun _ => []) st (sh.repl "$ ".toList st).1 ∧
      (sh.repl "$ ".toList st).1.output .out = "x\n".toList := by
  intro sh lines st
  have hplain : ∀ line ∈ lines, Input.IsPlainLine line := by decide
  obtain ⟨rest, hgives, hends⟩ := Input.exists_gives_flatMap hplain 0
  have hleave : sh.LeaveInput lines st := leaveInput_constant rfl lines st
  have hheard : sh.Heard lines st :=
    heard_of_taken CommandTable.ofBuiltins_standard rfl (fun _ => rfl) lines
  have hfirst : sh.RequestsFirst lines st 3 3 := by
    refine ⟨by decide, by decide, by decide +kernel, ?_⟩
    rintro (_ | _ | _ | j) hpos hlt
    · exact absurd hpos (Nat.lt_irrefl 0)
    · decide +kernel
    · decide +kernel
    · omega
  obtain ⟨hcode, hleft⟩ :=
    (sh.repl_stops_at_first_request "$ ".toList hgives hends hleave hheard).1 3 3 hfirst
  refine ⟨rest, hgives, hends, hleave, hheard, hfirst, hcode, hleft, ?_⟩
  decide +kernel

/-- Three sessions that are not what their lines are. On a plain terminal the prompt stands between
what they write, although the input is no terminal. Behind a text that a full standard output has
kept, `exit` fails and ends the session. A failure that the standard error does not take ends it,
too, and no later line is run. -/
theorem repl_departs_from_lines :
    let sh : Shell := ⟨.standard, .constant ⟨[], [], .exited 0, false⟩⟩
    let start := fun vars standard (lines : List Text) =>
      sh.start ⟨[]⟩ .root vars (lines.flatMap Text.line) standard
    (∀ vars standard lines, (∀ line ∈ lines, Input.IsPlainLine line) →
      ∃ rest, (start vars standard lines).input.Gives lines rest ∧ rest.Ends ∧
        sh.LeaveInput lines (start vars standard lines)) ∧
    (let lines := ["echo a".toList]
      let st := start ⟨[("TERM".toList, "emacs".toList)]⟩ .taking lines
      (sh.repl "p ".toList st).1.output .out = "p a\np ".toList ∧
        (sh.runAll lines 0 st).1.env.requestedExit = none ∧
        (sh.runAll lines 0 st).1.output .out = "a\n".toList) ∧
    (let lines := ["echo -n x".toList, "exit 3".toList, "echo later".toList]
      let st := start ⟨[]⟩ ⟨.refusing .noSpace [], none⟩ lines
      (sh.runAll (lines.take 1) 0 st).1.env.requestedExit = none ∧
        (sh.runLine "exit 3".toList .own (sh.runAll (lines.take 1) 0 st).1).2 =
          .error (.io (.os .noSpace)) ∧
        (sh.repl "$ ".toList st).2 = 3 ∧
        (sh.repl "$ ".toList st).1.input.text = "echo later\n".toList) ∧
    (let lines := ["nosuch".toList, "echo later".toList]
      let st := start ⟨[]⟩ ⟨.taking, some .brokenPipe⟩ lines
      (sh.runLine "nosuch".toList .own st).2 = .error (.commandNotFound "nosuch".toList) ∧
        (sh.runAll lines 0 st).1.env.requestedExit = none ∧
        (sh.runAll lines 0 st).1.output .out = "later\n".toList ∧
        (sh.repl "$ ".toList st).2 = abortedStatus ∧
        (sh.repl "$ ".toList st).1.output .out = []) := by
  intro sh start
  refine ⟨?_, by decide +kernel, by decide +kernel, by decide +kernel⟩
  intro vars standard lines hplain
  obtain ⟨rest, hgives, hends⟩ := Input.exists_gives_flatMap hplain 0
  exact ⟨rest, hgives, hends, leaveInput_constant rfl lines _⟩

end Shell

end CommandShell
