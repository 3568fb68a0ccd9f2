import CommandShell.Proofs.Program.Busy
import CommandShell.Proofs.State.Writing

/-!
# What the run of a program writes

A program is started with what the state and the input give it, and its streams decide
only where its two texts go: some sinks are out of its reach (`Sink.forProgram`), some refuse
what it writes (`State.taken`), and a file behind a stream can be the program itself. So a
program that starts in the same way writes the same with any streams
(`ProgramCall.exists_writing_run`). A target that is opened for a stream matters to the start
only if it is executed (`ProgramCall.startIn_divert`).
-/

namespace CommandShell

/-- What a program can reach of a sink: a stream in memory swallows what it writes. -/
def Sink.forProgram : Sink → Sink
  | .memory _ => .target (.device .null)
  | sink => sink

namespace Streams

/-- The streams with other sinks in the place of theirs. -/
def map (f : Sink → Sink) (streams : Streams) : Streams where
  input := streams.input
  out := f streams.out
  err := f streams.err

theorem sink_map (f : Sink → Sink) (streams : Streams) (s : Stream) :
    (streams.map f).sink s = f (streams.sink s) := by
  cases s <;> rfl

theorem mem_files_iff {streams : Streams} {a : Address} :
    a ∈ streams.files ↔ ∃ s, (streams.sink s).file? = some a := by
  constructor
  · intro h
    obtain ⟨sink, hsink, hfile⟩ := List.mem_filterMap.1 h
    obtain rfl | ⟨rfl | h⟩ := by simpa using hsink
    · exact ⟨.out, hfile⟩
    · exact ⟨.err, hfile⟩
  · rintro ⟨s, hfile⟩
    refine List.mem_filterMap.2 ⟨streams.sink s, ?_, hfile⟩
    cases s <;> simp

end Streams

namespace State

/-- What a program writes is swallowed, or refused, or goes where a command would write it. -/
theorem afterProgramWrote_cases (st : State) (sink : Sink) (t : Text) :
    (sink.forProgram = .target (.device .null) ∧ st.refusal? sink = none ∧
        st.afterProgramWrote sink t = st) ∨
      ((st.refusal? sink).isSome ∧ st.afterProgramWrote sink t = st) ∨
      (sink.forProgram = sink ∧ st.refusal? sink = none ∧
        st.afterProgramWrote sink t = st.put sink t) := by
  have htry : (st.refusal? sink).isSome ∧ st.tryWrite sink t = st ∨
      st.refusal? sink = none ∧ st.tryWrite sink t = st.put sink t := by
    unfold tryWrite write
    rcases st.refusal? sink with _ | cause
    · exact .inr ⟨rfl, rfl⟩
    · by_cases ht : t = []
      · simp [ht]
      · simp [ht]
  cases sink with
  | memory s => exact .inl ⟨rfl, rfl, rfl⟩
  | own s =>
      obtain h | h := htry
      · exact .inr (.inl h)
      · exact .inr (.inr ⟨rfl, h⟩)
  | target w =>
      obtain h | h := htry
      · exact .inr (.inl h)
      · exact .inr (.inr ⟨rfl, h⟩)
  | refusing cause => exact .inr (.inl ⟨rfl, (htry.resolve_right nofun).2⟩)

theorem alike_afterProgramWrote (st : State) (sink : Sink) (t : Text) :
    st.Alike (st.afterProgramWrote sink t) := by
  obtain ⟨-, -, h⟩ | ⟨-, h⟩ | ⟨-, -, h⟩ := afterProgramWrote_cases st sink t
  · rw [h]
    exact .refl st
  · rw [h]
    exact .refl st
  · rw [h]
    exact alike_put st sink t

/-- What is written to streams that refuse nothing. -/
def taken (st : State) (streams : Streams) (w : Writing) : Writing :=
  w.filter fun e => st.refusal? (streams.sink e.1) = none

theorem receives_afterProgramWrote (st : State) (streams : Streams) (s : Stream) (t : Text) :
    st.Receives (st.afterProgramWrote (streams.sink s) t) (streams.map Sink.forProgram)
      (st.taken streams [(s, t)]) := by
  intro sink
  obtain ⟨hnull, htaken, h⟩ | ⟨hrefused, h⟩ | ⟨hsink, htaken, h⟩ :=
    afterProgramWrote_cases st (streams.sink s) t
  · rw [h, taken, List.filter_cons_of_pos (by simpa using htaken), List.filter_nil,
      Streams.textFor_cons, Streams.textFor_nil, List.append_nil, Streams.sink_map, hnull]
    exact contentsOf_put st (.target (.device .null)) sink t
  · rw [h, taken, List.filter_cons_of_neg (by simpa [Option.isSome_iff_ne_none] using hrefused)]
    simp
  · rw [h, taken, List.filter_cons_of_pos (by simpa using htaken), List.filter_nil,
      Streams.textFor_cons, Streams.textFor_nil, List.append_nil, Streams.sink_map, hsink]
    exact contentsOf_put st (streams.sink s) sink t

theorem taken_eq {st st' : State} {streams streams' : Streams}
    (hrefusal : ∀ sink, st'.refusal? sink = st.refusal? sink) (h : streams.Alike st streams')
    (w : Writing) : st'.taken streams' w = st.taken streams w := by
  unfold taken
  congr 1
  funext e
  rw [hrefusal]
  obtain heq | ⟨htaken, htaken'⟩ := h.sink e.1
  · rw [heq]
  · rw [htaken, htaken']

end State

namespace ProgramCall

theorem run_eq (c : ProgramCall) (pf : Platform) (held : List Address) (streams : Streams)
    (st : State) :
    c.run pf held streams st =
      match st.flush [streams.out, streams.err] with
      | .error e => (st, .error (.io e))
      | .ok () =>
        match (c.startIn pf st (streams.files ++ held)).map (invocation st streams.input) with
        | .error e => (st, .error (.spawn c.name e))
        | .ok (image, invocation) =>
          ((afterRun st streams (pf.outcome image invocation)).note
            (.finishedProgram c.program (pf.outcome image invocation).status),
            .ok (pf.outcome image invocation).status.code) := by
  rw [← prepare_eq]
  rfl

theorem startIn_of_onlyNotes {st st' : State} (h : st.OnlyNotes st') (c : ProgramCall)
    (pf : Platform) : c.startIn pf st' = c.startIn pf st := by
  funext busy
  unfold startIn State.programAssignments
  rw [h.env, h.tree, h.workDir, h.inherited]

theorem invocation_of_onlyNotes {st st' : State} (h : st.OnlyNotes st') (source : Source) :
    invocation st' source = invocation st source := by
  funext s
  unfold invocation State.programAssignments
  rw [h.env, h.inherited, h.input]

theorem alike_afterRun {st st' : State} {streams streams' : Streams} (h : st.Alike st')
    (hinput : streams'.input = streams.input) (o : Outcome) :
    (afterRun st streams o).Alike (afterRun st' streams' o) := by
  have hwritten : ∀ (st : State) (streams : Streams), st.Alike
      ((st.afterProgramWrote streams.out o.out).afterProgramWrote streams.err o.err) :=
    fun st streams =>
      (State.alike_afterProgramWrote _ _ _).trans (State.alike_afterProgramWrote _ _ _)
  have halike := (hwritten st streams).symm.trans (h.trans (hwritten st' streams'))
  unfold afterRun
  dsimp only
  rw [hinput]
  split
  · exact { halike with input := congrArg Input.drained halike.input }
  · exact halike

theorem receives_afterRun (st : State) (streams : Streams) (o : Outcome) :
    st.Receives (afterRun st streams o) (streams.map Sink.forProgram)
      (st.taken streams [(.out, o.out), (.err, o.err)]) := by
  have hwritten : st.Receives
      ((st.afterProgramWrote streams.out o.out).afterProgramWrote streams.err o.err)
      (streams.map Sink.forProgram) (st.taken streams [(.out, o.out), (.err, o.err)]) := by
    have hsame := (st.alike_afterProgramWrote streams.out o.out).refusal?_eq
    have herr := (st.afterProgramWrote streams.out o.out).receives_afterProgramWrote streams .err
      o.err
    rw [State.taken_eq hsame (.refl st streams)] at herr
    have hboth := (st.receives_afterProgramWrote streams .out o.out).append herr
    unfold State.taken at hboth ⊢
    rwa [← List.filter_append] at hboth
  unfold afterRun
  dsimp only
  split
  · intro sink
    refine Eq.trans ?_ (hwritten sink)
    cases sink <;> rfl
  · exact hwritten

/-- A program writes the same whatever its streams lead to, if it starts at all in the
same way. -/
theorem exists_writing_run (c : ProgramCall) (pf : Platform) (held : List Address)
    (streams : Streams) (st : State) :
    ∃ w : Writing, ∀ held' streams' st', streams.Alike st streams' → st.OnlyNotes st' →
      c.startIn pf st (streams'.files ++ held') = c.startIn pf st (streams.files ++ held) →
        (c.run pf held' streams' st').2 = (c.run pf held streams st).2 ∧
          (c.run pf held streams st).1.Alike (c.run pf held' streams' st').1 ∧
          st'.Receives (c.run pf held' streams' st').1 (streams'.map Sink.forProgram) w := by
  have hflush : ∀ streams' st', streams.Alike st streams' → st.OnlyNotes st' →
      st'.flush [streams'.out, streams'.err] = st.flush [streams.out, streams.err] := by
    intro streams' st' hstreams hst
    rw [State.flush_of_standard_eq hst.standard]
    exact hstreams.flush_eq [.out, .err]
  simp only [run_eq]
  rcases hflushed : st.flush [streams.out, streams.err] with e | _
  · refine ⟨[], ?_⟩
    intro held' streams' st' hstreams hst _
    rw [hflush streams' st' hstreams hst, hflushed]
    exact ⟨rfl, hst.alike, State.receives_nil (fun _ => rfl) _⟩
  rcases hstart : c.startIn pf st (streams.files ++ held) with e | s
  · refine ⟨[], ?_⟩
    intro held' streams' st' hstreams hst hbusy
    rw [hflush streams' st' hstreams hst, hflushed, startIn_of_onlyNotes hst, hbusy]
    exact ⟨rfl, hst.alike, State.receives_nil (fun _ => rfl) _⟩
  · let o := pf.outcome (invocation st streams.input s).1 (invocation st streams.input s).2
    refine ⟨st.taken streams [(.out, o.out), (.err, o.err)], ?_⟩
    intro held' streams' st' hstreams hst hbusy
    rw [hflush streams' st' hstreams hst, hflushed, startIn_of_onlyNotes hst, hbusy,
      hstreams.input, invocation_of_onlyNotes hst]
    refine ⟨rfl, ?_, ?_⟩
    · have halike := alike_afterRun hst.alike hstreams.input o
      exact { halike with }
    · intro sink
      rw [← State.taken_eq hst.toSameSession.refusal?_eq hstreams]
      refine Eq.trans ?_ (receives_afterRun st' streams' o sink)
      exact ((State.OnlyNotes.refl _).note _).contentsOf_eq sink

/-- Opening a target for a stream makes no difference to the start, if it is not executed:
the file behind the stream stays open. -/
theorem startIn_divert {c : ProgramCall} {pf : Platform} {st : State} {streams : Streams}
    {s : Stream} {sink : Sink}
    (h : ∀ b, sink.file? = some b → c.startIn pf st [b] ≠ .error (.os .fileBusy)) :
    c.startIn pf st ((streams.divert s sink).files ++ (streams.sink s).file?.toList) =
      c.startIn pf st streams.files := by
  refine (busyOnly_startIn c pf st).eq_of_subset ?_ ?_
  · intro b hb
    obtain ⟨s', hfile⟩ := Streams.mem_files_iff.1 hb
    by_cases hs : s' = s
    · exact List.mem_append_right _ (by simp [← hs, hfile])
    · refine List.mem_append_left _ (Streams.mem_files_iff.2 ⟨s', ?_⟩)
      rw [Streams.sink_divert, if_neg hs, hfile]
  · intro b hb hnew
    refine h b ?_
    obtain hb | hb := List.mem_append.1 hb
    · obtain ⟨s', hfile⟩ := Streams.mem_files_iff.1 hb
      rw [Streams.sink_divert] at hfile
      by_cases hs : s' = s
      · rwa [if_pos hs] at hfile
      · rw [if_neg hs] at hfile
        exact absurd (Streams.mem_files_iff.2 ⟨s', hfile⟩) hnew
    · exact absurd (Streams.mem_files_iff.2 ⟨s, Option.mem_toList.1 hb⟩) hnew

end ProgramCall

end CommandShell
