import CommandShell.State
import CommandShell.Proofs.FileTree.Growth

/-!
# What of a state stays

Three relations say how little two states differ, each more than the one before: `OnlyNotes` leaves
all but the log, `OnlyGrows` also lets directories come to the tree, and `SameSession` speaks of the
shell itself, which is what a line leaves to the next, and of what the system refuses to its
process. New directories change no text that a sink holds (`OnlyGrows.contentsOf_eq`).
-/

namespace CommandShell

namespace State

/-- The shell itself is as it was, and what the system refuses to it. -/
structure SameSession (st st' : State) : Prop where
  env : st'.env = st.env
  workDir : st'.workDir = st.workDir
  inherited : st'.inherited = st.inherited
  barred : st'.barred = st.barred
  refusal : ∀ s, st'.standard.refusal? s = st.standard.refusal? s

theorem SameSession.refl (st : State) : st.SameSession st :=
  ⟨rfl, rfl, rfl, rfl, fun _ => rfl⟩

theorem SameSession.trans {st st' st'' : State} (h : st.SameSession st')
    (h' : st'.SameSession st'') : st.SameSession st'' := by
  constructor
  · rw [h'.env, h.env]
  · rw [h'.workDir, h.workDir]
  · rw [h'.inherited, h.inherited]
  · rw [h'.barred, h.barred]
  · intro s
    rw [h'.refusal, h.refusal]

theorem SameSession.symm {st st' : State} (h : st.SameSession st') : st'.SameSession st :=
  ⟨h.env.symm, h.workDir.symm, h.inherited.symm, h.barred.symm, fun s => (h.refusal s).symm⟩

/-- Sinks refuse what they refused. -/
theorem SameSession.refusal?_eq {st st' : State} (h : st.SameSession st') (sink : Sink) :
    st'.refusal? sink = st.refusal? sink := by
  cases sink with
  | own s => exact h.refusal s
  | memory s => rfl
  | target w => rcases w with a | _ | _ <;> rfl
  | refusing cause => rfl

theorem sameSession_put (st : State) (sink : Sink) (t : Text) : st.SameSession (st.put sink t) := by
  rcases sink with s | s | (a | d) | cause <;> exact ⟨rfl, rfl, rfl, rfl, fun _ => rfl⟩

theorem sameSession_of_write {st st' : State} {sink : Sink} {t : Text}
    (h : st.write sink t = .ok st') : st.SameSession st' := by
  unfold write at h
  split at h
  · cases h
    exact sameSession_put st sink t
  split at h
  · cases h
    exact .refl st
  · cases h

theorem sameSession_tryWrite (st : State) (sink : Sink) (t : Text) :
    st.SameSession (st.tryWrite sink t) := by
  unfold tryWrite
  split
  case h_1 hwrite => exact sameSession_of_write hwrite
  case h_2 => exact .refl st

/-- What a refused standard output collects does not make it take anything. -/
theorem refusal?_afterRefusal (st : State) (sink : Sink) (ts : List Text) (s : Stream) :
    (st.afterRefusal sink ts).1.refusal? s = st.standard.refusal? s := by
  unfold afterRefusal
  split
  · rename_i hout
    cases s with
    | out => simp [StandardStreams.refusal?, Outlet.refusal?, hout]
    | err => rfl
  · rfl

theorem sameSession_print (st : State) (sink : Sink) (ts : List Text) :
    st.SameSession (st.print sink ts).1 := by
  unfold print
  split
  · exact sameSession_put st sink ts.flatten
  · exact ⟨rfl, rfl, rfl, rfl, refusal?_afterRefusal st sink ts⟩

/-- Nothing was read from the standard input or written to a standard stream. -/
structure Silent (st st' : State) : Prop extends SameSession st st' where
  input : st'.input = st.input
  output : ∀ s, st'.output s = st.output s
  standard : st'.standard = st.standard

/-- Only the log makes a difference. -/
structure OnlyNotes (st st' : State) : Prop extends Silent st st' where
  tree : st'.tree = st.tree

/-- Only the log and new directories make a difference. -/
structure OnlyGrows (st st' : State) : Prop extends Silent st st' where
  tree : st.tree.AddsDirectories st'.tree

theorem OnlyNotes.refl (st : State) : st.OnlyNotes st :=
  { SameSession.refl st with input := rfl, output := fun _ => rfl, standard := rfl, tree := rfl }

theorem OnlyNotes.note {st st' : State} (h : st.OnlyNotes st') (e : Event) :
    st.OnlyNotes (st'.note e) where
  env := h.env
  workDir := h.workDir
  inherited := h.inherited
  barred := h.barred
  refusal := h.refusal
  input := h.input
  output := by
    intro s
    rw [output_note, h.output]
  standard := h.standard
  tree := h.tree

theorem OnlyNotes.onlyGrows {st st' : State} (h : st.OnlyNotes st') : st.OnlyGrows st' :=
  { h.toSilent with tree := h.tree ▸ .refl st.tree }

theorem Silent.trans {st st' st'' : State} (h : st.Silent st') (h' : st'.Silent st'') :
    st.Silent st'' :=
  { h.toSameSession.trans h'.toSameSession with
    input := h'.input.trans h.input
    output := fun s => (h'.output s).trans (h.output s)
    standard := h'.standard.trans h.standard }

/-- What is kept back is the same, so the same sinks can be flushed. -/
theorem flush_of_standard_eq {st st' : State} (h : st'.standard = st.standard)
    (sinks : List Sink) : st'.flush sinks = st.flush sinks := by
  have hflush : st'.flushRefusal? = st.flushRefusal? := by
    funext sink
    rcases sink with (_ | _) | s | w | cause
    · exact congrArg (fun standard => standard.out.flushRefusal?) h
    · rfl
    · rfl
    · rfl
    · rfl
  rw [flush, hflush, flush]

theorem flushRefusal?_eq_some_iff {st : State} {sink : Sink} {cause : OsError} :
    st.flushRefusal? sink = some cause ↔
      sink = .own .out ∧ st.standard.out.flushRefusal? = some cause := by
  rcases sink with (_ | _) | s | w | cause' <;> simp [flushRefusal?]

/-- Flushing fails for the standard output only. -/
theorem flush_eq_error_iff {st : State} {sinks : List Sink} {e : IoError} :
    st.flush sinks = .error e ↔
      .own .out ∈ sinks ∧ ∃ cause, st.standard.out.flushRefusal? = some cause ∧ e = .os cause := by
  unfold flush
  constructor
  · intro h
    split at h
    · cases h
    case h_2 cause hfind =>
        cases h
        obtain ⟨sink, hsink, hrefusal⟩ := List.exists_of_findSome?_eq_some hfind
        obtain ⟨rfl, hrefusal⟩ := flushRefusal?_eq_some_iff.1 hrefusal
        exact ⟨hsink, cause, hrefusal, rfl⟩
  · rintro ⟨hsink, cause, hrefusal, rfl⟩
    split
    case h_1 hfind =>
        have hnone := List.findSome?_eq_none_iff.1 hfind _ hsink
        rw [flushRefusal?_eq_some_iff.2 ⟨rfl, hrefusal⟩] at hnone
        cases hnone
    case h_2 cause' hfind =>
        obtain ⟨sink, -, hrefusal'⟩ := List.exists_of_findSome?_eq_some hfind
        obtain ⟨-, hrefusal'⟩ := flushRefusal?_eq_some_iff.1 hrefusal'
        rw [hrefusal] at hrefusal'
        cases hrefusal'
        rfl

/-- A target can always be flushed, so diverting a stream to it makes no flushing fail. -/
theorem flush_error_of_divert {st : State} {streams : Streams} {s : Stream} {w : WriteTarget}
    {e : IoError} (h : st.flush [(streams.divert s (.target w)).out,
      (streams.divert s (.target w)).err] = .error e) :
    st.flush [streams.out, streams.err] = .error e := by
  obtain ⟨hsink, hrefusal⟩ := flush_eq_error_iff.1 h
  refine flush_eq_error_iff.2 ⟨?_, hrefusal⟩
  cases s with
  | out => exact List.mem_cons_of_mem _ (by simpa [Streams.divert] using hsink)
  | err => exact List.mem_cons.2 (.inl (by simpa [Streams.divert] using hsink))

theorem OnlyNotes.trans {st st' st'' : State} (h : st.OnlyNotes st') (h' : st'.OnlyNotes st'') :
    st.OnlyNotes st'' :=
  { h.toSilent.trans h'.toSilent with tree := h'.tree.trans h.tree }

/-- What a line looks at is the same in both states. -/
theorem OnlyNotes.symm {st st' : State} (h : st.OnlyNotes st') : st'.OnlyNotes st :=
  { h.toSameSession.symm with
    input := h.input.symm
    output := fun s => (h.output s).symm
    standard := h.standard.symm
    tree := h.tree.symm }

theorem OnlyNotes.note_note {st st' : State} (h : st.OnlyNotes st') (e e' : Event) :
    (st.note e).OnlyNotes (st'.note e') :=
  (h.note e').symm.note e |>.symm

theorem OnlyGrows.trans {st st' st'' : State} (h : st.OnlyGrows st') (h' : st'.OnlyGrows st'') :
    st.OnlyGrows st'' :=
  { h.toSilent.trans h'.toSilent with tree := h.tree.trans h'.tree }

/-- The text that a sink holds so far; devices hold none. -/
def contentsOf (st : State) : Sink → Option Contents
  | .own s => some (.text (st.output s))
  | .memory s => some (.text (st.output s))
  | .target (.file a) =>
    match st.tree.node? a with
    | some (.file _ c) => some c
    | _ => none
  | .target (.device _) => none
  | .refusing _ => none

/-- A sink holds the same text in a tree that has new directories. -/
theorem OnlyGrows.contentsOf_eq {st st' : State} (h : st.OnlyGrows st') (sink : Sink) :
    st'.contentsOf sink = st.contentsOf sink := by
  cases sink with
  | own s => simp only [contentsOf, h.output]
  | memory s => simp only [contentsOf, h.output]
  | target w =>
      cases w with
      | device d => rfl
      | file a =>
          obtain heq | ⟨hnone, hdir⟩ := h.tree a
          · simp only [contentsOf, heq]
          · simp only [contentsOf, hnone, hdir]
  | refusing cause => rfl

theorem OnlyNotes.contentsOf_eq {st st' : State} (h : st.OnlyNotes st') (sink : Sink) :
    st'.contentsOf sink = st.contentsOf sink :=
  h.onlyGrows.contentsOf_eq sink

end State

end CommandShell
