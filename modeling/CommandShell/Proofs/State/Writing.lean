import CommandShell.Proofs.FileTree.Shape
import CommandShell.Proofs.State.Frame

/-!
# What is written and where it goes

A command writes texts to its two streams. The texts in their order are a `Writing`; only
the sinks of the streams decide where each of them goes. `State.Receives` says that every
sink holds what it held before, and behind it the texts of the streams that lead to it.

Writing changes nothing that a command looks at: the state stays alike (`alike_put`), that is
the same but for the log, the texts of the streams and what files hold.
-/

namespace CommandShell

/-- What is written to the two streams of a command, in this order. -/
abbrev Writing := List (Stream × Text)

namespace Writing

/-- All that is written to one of the streams. -/
def textTo (w : Writing) (s : Stream) : Text :=
  w.flatMap fun e => if e.1 = s then e.2 else []

/-- What is left when one of the streams is taken away. -/
def without (w : Writing) (s : Stream) : Writing := w.filter (·.1 ≠ s)

theorem without_cons_of_eq {e : Stream × Text} {s : Stream} (h : e.1 = s) (w : Writing) :
    without (e :: w) s = without w s :=
  List.filter_cons_of_neg (by simp [h])

theorem without_cons_of_ne {e : Stream × Text} {s : Stream} (h : e.1 ≠ s) (w : Writing) :
    without (e :: w) s = e :: without w s :=
  List.filter_cons_of_pos (by simp [h])

end Writing

namespace Sink

/-- The sink that keeps what this one gets: a stream in memory is kept as the stream. -/
def keeper : Sink → Sink
  | .memory s => .own s
  | sink => sink

end Sink

namespace Streams

@[simp] theorem input_divert (streams : Streams) (s : Stream) (sink : Sink) :
    (streams.divert s sink).input = streams.input := by
  cases s <;> rfl

theorem sink_divert (streams : Streams) (s s' : Stream) (sink : Sink) :
    (streams.divert s sink).sink s' = if s' = s then sink else streams.sink s' := by
  cases s <;> cases s' <;> rfl

/-- The part of what is written that a sink gets. -/
def textFor (streams : Streams) (w : Writing) (sink : Sink) : Text :=
  w.flatMap fun e => if (streams.sink e.1).keeper = sink.keeper then e.2 else []

@[simp] theorem textFor_nil (streams : Streams) (sink : Sink) : streams.textFor [] sink = [] := rfl

theorem textFor_cons (streams : Streams) (e : Stream × Text) (w : Writing) (sink : Sink) :
    streams.textFor (e :: w) sink =
      (if (streams.sink e.1).keeper = sink.keeper then e.2 else []) ++ streams.textFor w sink := rfl

theorem textFor_append (streams : Streams) (w w' : Writing) (sink : Sink) :
    streams.textFor (w ++ w') sink = streams.textFor w sink ++ streams.textFor w' sink := by
  simp [textFor]

end Streams

namespace State

/-- The states are the same but for the log, what was written to the standard streams, and
what files hold. -/
structure Alike (st st' : State) : Prop extends SameSession st st' where
  input : st'.input = st.input
  tree : st.tree.SameShape st'.tree
  standard : st'.standard = st.standard

theorem Alike.refl (st : State) : st.Alike st :=
  { SameSession.refl st with input := rfl, tree := .refl st.tree, standard := rfl }

theorem Alike.trans {st st' st'' : State} (h : st.Alike st') (h' : st'.Alike st'') :
    st.Alike st'' :=
  { h.toSameSession.trans h'.toSameSession with
    input := h'.input.trans h.input
    tree := h.tree.trans h'.tree
    standard := h'.standard.trans h.standard }

theorem Alike.symm {st st' : State} (h : st.Alike st') : st'.Alike st :=
  { h.toSameSession.symm with
    input := h.input.symm
    tree := h.tree.symm
    standard := h.standard.symm }

theorem OnlyNotes.alike {st st' : State} (h : st.OnlyNotes st') : st.Alike st' :=
  { h.toSameSession with
    input := h.input
    tree := h.tree ▸ .refl st.tree
    standard := h.standard }

/-- Where a text goes: to a stream, to a file, or nowhere. -/
theorem put_cases (st : State) (sink : Sink) (t : Text) :
    (∃ s, sink.keeper = .own s ∧ st.put sink t = st.emit s t) ∨
      (∃ a, sink = .target (.file a) ∧
        st.put sink t = { st with tree := st.tree.appendTo a t }) ∨
      ((∀ st : State, st.contentsOf sink.keeper = none) ∧ st.put sink t = st) := by
  rcases sink with s | s | (a | d) | cause
  · exact .inl ⟨s, rfl, rfl⟩
  · exact .inl ⟨s, rfl, rfl⟩
  · exact .inr (.inl ⟨a, rfl, rfl⟩)
  · exact .inr (.inr ⟨fun _ => rfl, rfl⟩)
  · exact .inr (.inr ⟨fun _ => rfl, rfl⟩)

theorem alike_put (st : State) (sink : Sink) (t : Text) : st.Alike (st.put sink t) := by
  have hsame := sameSession_put st sink t
  obtain ⟨s, -, h⟩ | ⟨a, -, h⟩ | ⟨-, h⟩ := put_cases st sink t
  · rw [h] at hsame ⊢
    exact { hsame with input := rfl, tree := .refl _, standard := rfl }
  · rw [h] at hsame ⊢
    exact { hsame with
      input := rfl
      tree := FileTree.sameShape_appendTo _ _ _
      standard := rfl }
  · rw [h]
    exact .refl st

theorem print_of_taken {st : State} {sink : Sink} (h : st.refusal? sink = none) (ts : List Text) :
    st.print sink ts = (st.put sink ts.flatten, .ok ()) := by
  simp only [print, h]

/-- What is refused goes nowhere; at most the standard output has collected some of it. -/
theorem exists_print_of_refused (st : State) (sink : Sink) (cause : OsError) (ts : List Text) :
    ∃ standard result, ∀ st' : State, st'.refusal? sink = some cause →
      st'.standard = st.standard →
        st'.print sink ts = ({ st' with standard := standard }, result) := by
  refine ⟨(st.afterRefusal sink ts).1,
    if (st.afterRefusal sink ts).2 then .ok () else .error (.os cause), ?_⟩
  intro st' hrefusal hstandard
  have hafter : st'.afterRefusal sink ts = st.afterRefusal sink ts := by
    unfold afterRefusal
    rw [hstandard]
  simp only [print, hrefusal, hafter]

theorem flushRefusal?_of_taken {st : State} {sink : Sink} (h : st.refusal? sink = none) :
    st.flushRefusal? sink = none := by
  rcases sink with (_ | _) | s | w | cause
  · change st.standard.out.refusal? = none at h
    change st.standard.out.flushRefusal? = none
    rcases hout : st.standard.out with _ | ⟨cause, kept⟩
    · rfl
    · rw [hout] at h
      cases h
  all_goals rfl

/-- Only a standard output that refuses can make flushing fail. -/
theorem flush_of_taken {st : State} {sinks : List Sink}
    (h : .own .out ∈ sinks → st.refusal? (.own .out) = none) : st.flush sinks = .ok () := by
  rcases hflush : st.flush sinks with e | _
  · obtain ⟨hsink, cause, hrefusal, -⟩ := flush_eq_error_iff.1 hflush
    have hnone := flushRefusal?_of_taken (h hsink)
    rw [flushRefusal?_eq_some_iff.2 ⟨rfl, hrefusal⟩] at hnone
    cases hnone
  · rfl

theorem contentsOf_keeper (st : State) (sink : Sink) :
    st.contentsOf sink.keeper = st.contentsOf sink := by
  cases sink <;> rfl

theorem output_eq_of_contentsOf {st st' : State} {s : Stream} {t : Text}
    (h : st'.contentsOf (.own s) = (st.contentsOf (.own s)).map (·.append t)) :
    st'.output s = st.output s ++ t :=
  Contents.text.inj (Option.some.inj h)

/-- A sink that keeps texts where another one does gets what is written to that one. -/
theorem contentsOf_put (st : State) (sink sink' : Sink) (t : Text) :
    (st.put sink t).contentsOf sink' =
      (st.contentsOf sink').map (·.append (if sink.keeper = sink'.keeper then t else [])) := by
  obtain ⟨s, hsink, h⟩ | ⟨a, rfl, h⟩ | ⟨hnone, h⟩ := put_cases st sink t
  · rw [h, ← contentsOf_keeper (st.emit s t), ← contentsOf_keeper st, hsink]
    rcases hkeeper : sink'.keeper with s' | s' | (a | d) | cause
    · simp only [contentsOf, output_emit, Option.map_some, Contents.append, Sink.own.injEq]
    · cases sink' <;> cases hkeeper
    · simp [contentsOf, emit]
    · rfl
    · rfl
  · rw [h, ← contentsOf_keeper, ← contentsOf_keeper st]
    rcases hkeeper : sink'.keeper with s' | s' | (b | d) | cause
    · simp [contentsOf, output, Sink.keeper]
    · cases sink' <;> cases hkeeper
    · by_cases hb : b = a
      · subst hb
        rcases hnode : st.tree.node? b with _ | ⟨⟩ | ⟨permissions, c⟩ | target | d
        case some.file =>
            simp [contentsOf, hnode, FileTree.node?_appendTo_self hnode, Sink.keeper]
        all_goals simp [contentsOf, hnode, FileTree.appendTo]
      · simp [contentsOf, FileTree.node?_appendTo_of_ne _ _ hb, Sink.keeper, Ne.symm hb]
    · rfl
    · rfl
  · rw [h, ← contentsOf_keeper]
    by_cases hsink : sink.keeper = sink'.keeper
    · rw [← hsink, hnone]
      rfl
    · simp [hsink]

/-- Every sink holds what it held, and behind it what was written to the streams that lead
to it. -/
def Receives (st st' : State) (streams : Streams) (w : Writing) : Prop :=
  ∀ sink, st'.contentsOf sink = (st.contentsOf sink).map (·.append (streams.textFor w sink))

theorem receives_nil {st st' : State} (h : ∀ sink, st'.contentsOf sink = st.contentsOf sink)
    (streams : Streams) : st.Receives st' streams [] := by
  intro sink
  simp [h sink]

theorem receives_put (st : State) (streams : Streams) (s : Stream) (t : Text) :
    st.Receives (st.put (streams.sink s) t) streams [(s, t)] := by
  intro sink
  rw [contentsOf_put, Streams.textFor_cons, Streams.textFor_nil, List.append_nil]

theorem Receives.append {st st' st'' : State} {streams : Streams} {w w' : Writing}
    (h : st.Receives st' streams w) (h' : st'.Receives st'' streams w') :
    st.Receives st'' streams (w ++ w') := by
  intro sink
  rw [h' sink, h sink, Option.map_map, Streams.textFor_append]
  congr 1
  funext c
  exact Contents.append_append c _ _

end State

namespace Streams

/-- The streams give the same input, and differ at most in where a text goes that is taken. -/
structure Alike (st : State) (streams streams' : Streams) : Prop where
  input : streams'.input = streams.input
  sink : ∀ s, streams'.sink s = streams.sink s ∨
    (st.refusal? (streams.sink s) = none ∧ st.refusal? (streams'.sink s) = none)

namespace Alike

theorem refl (st : State) (streams : Streams) : streams.Alike st streams :=
  ⟨rfl, fun _ => .inl rfl⟩

theorem of_refusal {st st' : State} {streams streams' : Streams}
    (hrefusal : ∀ sink, st'.refusal? sink = st.refusal? sink) (h : streams.Alike st streams') :
    streams.Alike st' streams' where
  input := h.input
  sink := by
    intro s
    rw [hrefusal, hrefusal]
    exact h.sink s

theorem flush_eq {st : State} {streams streams' : Streams} (h : streams.Alike st streams')
    (ss : List Stream) : st.flush (ss.map streams'.sink) = st.flush (ss.map streams.sink) := by
  have hflush : ∀ s, st.flushRefusal? (streams'.sink s) = st.flushRefusal? (streams.sink s) := by
    intro s
    obtain heq | ⟨htaken, htaken'⟩ := h.sink s
    · rw [heq]
    · rw [State.flushRefusal?_of_taken htaken, State.flushRefusal?_of_taken htaken']
  have hfind : (ss.map streams'.sink).findSome? st.flushRefusal? =
      (ss.map streams.sink).findSome? st.flushRefusal? := by
    simp only [List.findSome?_map, Function.comp_def, hflush]
  rw [State.flush, hfind, State.flush]

end Alike

end Streams

end CommandShell
