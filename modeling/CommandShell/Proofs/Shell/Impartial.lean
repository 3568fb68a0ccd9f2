import CommandShell.Proofs.Shell.Session

/-!
# Commands do not look at where they write

What a command does cannot depend on where its streams lead, but for a sink that refuses:
it writes the same texts, and ends with the same result in a state that is alike. `type`
is the one command that looks at files between two writes; it is not misled, since
writing keeps the shape of the tree.

A command is put together from writing and from looking at what writing does not change,
one behind the other (`Impartial.bind`). The main statement is
`Builtin.impartial_action`.
-/

namespace CommandShell

/-- Whatever the streams lead to, the run writes the same texts to them, has the same
result, and leaves a state that is alike. What sinks refuse does not change. -/
def Impartial {ε : Type} (run : Streams → State → State × ε) : Prop :=
  ∀ streams st, (∀ sink, (run streams st).1.refusal? sink = st.refusal? sink) ∧
    ∃ w : Writing, ∀ streams' st', streams.Alike st streams' → st.Alike st' →
      (run streams' st').2 = (run streams st).2 ∧
        (run streams st).1.Alike (run streams' st').1 ∧
        st'.Receives (run streams' st').1 streams' w

/-- A value that is read off a state and that writing does not change. -/
def State.Steady {α : Type} (f : State → α) : Prop :=
  ∀ {st st'}, st.Alike st' → f st' = f st

section

variable {δ ε : Type}

/-- A run that writes nothing. -/
theorem impartial_of_contentsOf_eq (run : State → State × ε)
    (hresult : State.Steady fun st => (run st).2)
    (halike : ∀ {st st'}, st.Alike st' → (run st).1.Alike (run st').1)
    (hrefusal : ∀ st sink, (run st).1.refusal? sink = st.refusal? sink)
    (hcontents : ∀ st sink, (run st).1.contentsOf sink = st.contentsOf sink) :
    Impartial fun _ st => run st := by
  intro streams st
  refine ⟨hrefusal st, [], ?_⟩
  intro streams' st' _ hst
  exact ⟨hresult hst, halike hst, State.receives_nil (hcontents st') streams'⟩

theorem impartial_pure (r : ε) : Impartial fun _ st => (st, r) :=
  impartial_of_contentsOf_eq (fun st => (st, r)) (fun _ => rfl) (fun h => h) (fun _ _ => rfl)
    (fun _ _ => rfl)

/-- Writes the pieces of a text, with a result for each way in which that can end. -/
def printThen (s : Stream) (ts : State → List Text) (ok : State → ε) (error : IoError → ε)
    (streams : Streams) (st : State) : State × ε :=
  match st.print (streams.sink s) (ts st) with
  | (st', .ok ()) => (st', ok st)
  | (st', .error e) => (st', error e)

theorem impartial_printThen (s : Stream) (ts : State → List Text) (ok : State → ε)
    (error : IoError → ε) (hts : State.Steady ts) (hok : State.Steady ok) :
    Impartial (printThen s ts ok error) := by
  intro streams st
  unfold printThen
  cases hrefusal : st.refusal? (streams.sink s) with
  | none =>
      have hprint := State.print_of_taken hrefusal (ts st)
      refine ⟨?_, [(s, (ts st).flatten)], ?_⟩
      · rw [hprint]
        exact (State.sameSession_put st _ _).refusal?_eq
      intro streams' st' hstreams hst
      have htaken : st'.refusal? (streams'.sink s) = none := by
        rw [hst.refusal?_eq]
        obtain heq | ⟨-, htaken⟩ := hstreams.sink s
        · rw [heq, hrefusal]
        · exact htaken
      rw [hprint, hts hst, State.print_of_taken htaken]
      exact ⟨hok hst, (State.alike_put st _ _).symm.trans (hst.trans (State.alike_put st' _ _)),
        State.receives_put st' streams' s _⟩
  | some cause =>
      -- Only the same sink can stand in the place of one that refuses.
      obtain ⟨standard, result, hprint⟩ :=
        State.exists_print_of_refused st (streams.sink s) cause (ts st)
      have hsame := State.sameSession_print st (streams.sink s) (ts st)
      rw [hprint st hrefusal rfl] at hsame ⊢
      refine ⟨?_, [], ?_⟩
      · rcases result with e | _ <;> exact hsame.refusal?_eq
      intro streams' st' hstreams hst
      obtain heq | ⟨htaken, -⟩ := hstreams.sink s
      · have hrefusal' : st'.refusal? (streams.sink s) = some cause := by
          rw [hst.refusal?_eq, hrefusal]
        rw [heq, hts hst, hprint st' hrefusal' hst.standard]
        have halike : State.Alike { st with standard := standard }
            { st' with standard := standard } :=
          { hst with refusal := fun _ => rfl, standard := rfl }
        rcases result with e | _
        · exact ⟨rfl, halike, State.receives_nil (fun sink => by cases sink <;> rfl) streams'⟩
        · exact ⟨hok hst, halike, State.receives_nil (fun sink => by cases sink <;> rfl) streams'⟩
      · rw [htaken] at hrefusal
        cases hrefusal

theorem impartial_print (s : Stream) (ts : List Text) :
    Impartial fun streams st => st.print (streams.sink s) ts := by
  have heq : (fun (streams : Streams) (st : State) => st.print (streams.sink s) ts) =
      printThen s (fun _ => ts) (fun _ => .ok ()) .error := by
    funext streams st
    unfold printThen
    rcases st.print (streams.sink s) ts with ⟨st', e | _⟩
    · rfl
    · rfl
  rw [heq]
  exact impartial_printThen s _ _ _ (fun _ => rfl) (fun _ => rfl)

/-- The second run starts where the first one ended, and may depend on its result. -/
theorem Impartial.bind {run : Streams → State → State × δ} (h : Impartial run)
    (next : δ → Streams → State → State × ε) (hnext : ∀ r, Impartial (next r)) :
    Impartial fun streams st => next (run streams st).2 streams (run streams st).1 := by
  intro streams st
  obtain ⟨hrefusal, w, hw⟩ := h streams st
  obtain ⟨hrefusal', w', hw'⟩ := hnext (run streams st).2 streams (run streams st).1
  refine ⟨fun sink => (hrefusal' sink).trans (hrefusal sink), w ++ w', ?_⟩
  intro streams' st' hstreams hst
  obtain ⟨hresult, halike, hreceives⟩ := hw streams' st' hstreams hst
  obtain ⟨hresult', halike', hreceives'⟩ := hw' streams' _ (hstreams.of_refusal hrefusal) halike
  dsimp only
  rw [hresult]
  exact ⟨hresult', halike', hreceives.append hreceives'⟩

end

namespace Action

theorem impartial_settle (ss : List Stream) (code : ExitCode) :
    Impartial fun streams st => settle (ss.map streams.sink) code st := by
  intro streams st
  refine ⟨fun sink => by rw [settle_fst], [], ?_⟩
  intro streams' st' hstreams hst
  have hflush : st'.flush (ss.map streams'.sink) = st.flush (ss.map streams.sink) := by
    rw [State.flush_of_standard_eq hst.standard, hstreams.flush_eq]
  refine ⟨?_, ?_, State.receives_nil (fun sink => by rw [settle_fst]) streams'⟩
  · simp only [settle, hflush]
    rcases st.flush (ss.map streams.sink) with e | _
    · rfl
    · rfl
  · rw [settle_fst, settle_fst]
    exact hst

/-- How a command ends behind its last line. -/
def settleBehind (flushed : List Sink) (code : ExitCode) :
    Except IoError Unit → State → State × Except LineError ExitCode
  | .ok () => settle flushed code
  | .error e => fun st => (st, .error (.io e))

theorem tell_eq (sink : Sink) (line : Text) (flushed : List Sink) (code : ExitCode) :
    tell sink line flushed code = fun st =>
      settleBehind flushed code (st.print sink [line, ['\n']]).2
        (st.print sink [line, ['\n']]).1 := by
  funext st
  rw [tell]
  rcases st.print sink [line, ['\n']] with ⟨st', e | _⟩
  · rfl
  · rfl

theorem impartial_tell (s : Stream) (line : Text) (ss : List Stream) (code : ExitCode) :
    Impartial fun streams st => tell (streams.sink s) line (ss.map streams.sink) code st := by
  simp only [tell_eq]
  refine (impartial_print s [line, ['\n']]).bind
    (fun r streams => settleBehind (ss.map streams.sink) code r) ?_
  rintro (e | _)
  · exact impartial_pure _
  · exact impartial_settle ss code

theorem impartial_help (text : Text) : Impartial (help text) :=
  impartial_tell .out (Text.trimEnd text) [.out] 0

theorem impartial_refusal (message : Text) : Impartial (refusal message) :=
  impartial_tell .err (Text.trimEnd message) [.err] 2

theorem impartial_writeBody (ts : State → List Text) (hts : State.Steady ts) :
    Impartial fun streams st => writeBody (ts st) streams.out st :=
  impartial_printThen .out ts (fun _ => Except.ok 0) (fun e => Except.error e.message) hts
    (fun _ => rfl)

/-- How the result of a body becomes that of its action. -/
def finish : Except Text ExitCode → Action
  | .ok code => fun streams st => settle [streams.out, streams.err] code st
  | .error message => fun streams st =>
    tell streams.err message [streams.out, streams.err] 1 st

theorem ofBody_eq (body : Sink → State → State × Except Text ExitCode) :
    ofBody body = fun streams st =>
      finish (body streams.out st).2 streams (body streams.out st).1 := by
  funext streams st
  rw [ofBody]
  rcases body streams.out st with ⟨st', message | code⟩
  · rfl
  · rfl

theorem impartial_ofBody {body : Sink → State → State × Except Text ExitCode}
    (h : Impartial fun streams => body streams.out) : Impartial (ofBody body) := by
  rw [ofBody_eq]
  refine h.bind finish ?_
  rintro (message | code)
  · exact impartial_tell .err message [.out, .err] 1
  · exact impartial_settle [.out, .err] code

end Action

namespace ChangeDirectory

theorem directoryAt_of_sameShape {t t' : FileTree} (h : t.SameShape t') (start : Place)
    (shown : Text) (p : Path) :
    directoryAt t' start shown p = directoryAt t start shown p := by
  have hresolve := FileTree.resolve?_map_shape h start p
  have hleads := funext (FileTree.leadsToDirectory_of_sameShape h start)
  unfold directoryAt
  rw [hleads]
  revert hresolve
  rcases t.resolve? start p with _ | ⟨q⟩ | ⟨q, n, node⟩ | ⟨q, n⟩ <;>
    rcases t'.resolve? start p with _ | ⟨q'⟩ | ⟨q', n', node'⟩ | ⟨q', n'⟩ <;>
    simp +contextual [Landing.shape, Landing.canonicalPath?, Landing.path?]

theorem steady_goal (c : ChangeDirectory) : State.Steady c.goal := by
  intro st st' h
  unfold goal State.valueOf?
  rw [h.env, h.inherited, h.workDir, funext (directoryAt_of_sameShape h.tree st.workDir c.shown)]

theorem refusal?_move (c : ChangeDirectory) (st : State) (sink : Sink) :
    (c.move st).1.refusal? sink = st.refusal? sink := by
  obtain ⟨e, hmove⟩ | ⟨place, path, -, -, hmove⟩ := c.move_cases st
  · rw [hmove]
  · rw [hmove]
    rcases sink with s | s | (a | _ | _) | cause <;> rfl

theorem contentsOf_move (c : ChangeDirectory) (st : State) (sink : Sink) :
    (c.move st).1.contentsOf sink = st.contentsOf sink := by
  obtain ⟨e, hmove⟩ | ⟨place, path, -, -, hmove⟩ := c.move_cases st
  · rw [hmove]
  · rw [hmove]
    cases sink <;> rfl

/-- States that are alike are alike behind the move, which ends alike. -/
theorem move_of_alike (c : ChangeDirectory) {st st' : State} (h : st.Alike st') :
    (c.move st').2 = (c.move st).2 ∧ (c.move st).1.Alike (c.move st').1 := by
  rcases hgoal : c.goal st with e | ⟨place, path⟩
  · rw [move_of_error hgoal, move_of_error ((steady_goal c h).trans hgoal)]
    exact ⟨rfl, h⟩
  have hgoal' := (steady_goal c h).trans hgoal
  rcases hbarred : st.barred.lookup place.address with _ | cause
  · rw [move_of_ok hgoal hbarred, move_of_ok hgoal' (by rw [h.barred, hbarred])]
    exact ⟨rfl, { h with
      env := congrArg (fun env : Environment => { env with currentDir := path }) h.env
      workDir := rfl }⟩
  · rw [move_of_barred hgoal hbarred, move_of_barred hgoal' (by rw [h.barred, hbarred])]
    exact ⟨rfl, h⟩

/-- How the result of the move becomes that of the body. -/
def bodyResult : Except Failure Unit → Except Text ExitCode
  | .ok () => .ok 0
  | .error e => .error e.message

theorem action_eq (c : ChangeDirectory) :
    c.action = .ofBody fun _ st => ((c.move st).1, bodyResult (c.move st).2) := by
  unfold action
  congr 1
  funext _ st
  rcases c.move st with ⟨st', e | _⟩
  · rfl
  · rfl

theorem impartial_action (c : ChangeDirectory) : Impartial c.action := by
  rw [action_eq]
  refine Action.impartial_ofBody (impartial_of_contentsOf_eq _ ?_ ?_ ?_ ?_)
  · intro st st' h
    exact congrArg bodyResult (c.move_of_alike h).1
  · intro st st' h
    exact (c.move_of_alike h).2
  · exact c.refusal?_move
  · exact c.contentsOf_move

end ChangeDirectory

namespace Describe

theorem steady_describe (n : Text) : State.Steady fun st => describe st n := by
  intro st st' h
  dsimp only [describe]
  rw [h.env, h.inherited, h.workDir, Lookup.command?_of_sameShape h.tree]

/-- The line about the first of some names, with the status up to it. -/
def writeFirst (n : Text) (code : ExitCode) (sink : Sink) (st : State) :
    State × Except Text ExitCode :=
  match st.print sink ((describe st n).pieces n) with
  | (st', .ok ()) => (st', .ok (if describe st n = .notFound then 1 else code))
  | (st', .error e) => (st', .error e.message)

/-- The lines about the other names. -/
def writeRest (ns : List Text) : Except Text ExitCode → Sink → State → State × Except Text ExitCode
  | .ok code => fun sink st => writeAll sink code ns st
  | .error message => fun _ st => (st, .error message)

theorem writeAll_cons (sink : Sink) (code : ExitCode) (n : Text) (ns : List Text) (st : State) :
    writeAll sink code (n :: ns) st =
      writeRest ns (writeFirst n code sink st).2 sink (writeFirst n code sink st).1 := by
  rw [writeAll, writeFirst]
  rcases st.print sink ((describe st n).pieces n) with ⟨st', e | _⟩
  · rfl
  · rfl

theorem impartial_writeFirst (n : Text) (code : ExitCode) :
    Impartial fun streams => writeFirst n code streams.out := by
  refine impartial_printThen .out (fun st => (describe st n).pieces n)
    (fun st => Except.ok (if describe st n = .notFound then 1 else code))
    (fun e => Except.error e.message) ?_ ?_
  · intro st st' h
    exact congrArg (Description.pieces n) (steady_describe n h)
  · intro st st' h
    exact congrArg (fun d => Except.ok (if d = .notFound then 1 else code)) (steady_describe n h)

theorem impartial_writeAll (code : ExitCode) (ns : List Text) :
    Impartial fun streams => writeAll streams.out code ns := by
  induction ns generalizing code with
  | nil => exact impartial_pure (Except.ok code)
  | cons n ns ih =>
      have heq : (fun streams : Streams => writeAll streams.out code (n :: ns)) =
          fun streams st => writeRest ns (writeFirst n code streams.out st).2 streams.out
            (writeFirst n code streams.out st).1 := by
        funext streams st
        exact writeAll_cons _ _ _ _ _
      rw [heq]
      refine (impartial_writeFirst n code).bind (fun r streams => writeRest ns r streams.out) ?_
      rintro (message | code')
      · exact impartial_pure (Except.error message)
      · exact ih code'

theorem impartial_action (d : Describe) : Impartial d.action := by
  refine Action.impartial_ofBody ?_
  unfold body
  by_cases h : d.names = []
  · simp only [h, if_true]
    exact impartial_pure (Except.error usage)
  · simp only [h, if_false]
    exact impartial_writeAll 0 d.names

end Describe

theorem Echo.impartial_action (e : Echo) : Impartial e.action :=
  Action.impartial_ofBody (Action.impartial_writeBody (fun _ => e.pieces) fun _ => rfl)

theorem PrintDirectory.impartial_action : Impartial PrintDirectory.action := by
  refine Action.impartial_ofBody (Action.impartial_writeBody _ ?_)
  intro st st' h
  dsimp only
  rw [h.env]

theorem Exit.impartial_action (e : Exit) : Impartial e.action := by
  refine Action.impartial_ofBody (impartial_of_contentsOf_eq
    (fun st => ({ st with env := { st.env with requestedExit := some (e.code.getD 0) } },
      Except.ok (e.code.getD 0))) ?_ ?_ ?_ ?_)
  · intro st st' _
    rfl
  · intro st st' h
    exact { h with
      env := congrArg
        (fun env : Environment => { env with requestedExit := some (e.code.getD 0) }) h.env }
  · intro st sink
    rcases sink with s | s | (a | _ | _) | cause <;> rfl
  · intro st sink
    cases sink <;> rfl

namespace Builtin

theorem impartial_ofGrammar {g : ArgumentGrammar} {args : List Text} {run : Arguments → Action}
    (hrun : ∀ a, Impartial (run a)) : Impartial (ofGrammar g args run) := by
  unfold ofGrammar
  split
  · exact Action.impartial_refusal _
  · exact Action.impartial_help _
  · exact hrun _

theorem impartial_action (b : Builtin) (args : List Text) : Impartial (b.action args) := by
  cases b with
  | cd => exact impartial_ofGrammar fun _ => ChangeDirectory.impartial_action _
  | echo => exact Echo.impartial_action _
  | exit =>
      unfold action
      dsimp only
      split
      · exact Action.impartial_refusal _
      · exact Exit.impartial_action _
  | pwd => exact impartial_ofGrammar fun _ => PrintDirectory.impartial_action
  | type => exact impartial_ofGrammar fun _ => Describe.impartial_action _

end Builtin

end CommandShell
