import CommandShell.Builtin
import CommandShell.Program
import CommandShell.Proofs.FileTree.Opening
import CommandShell.Proofs.State.Writing

/-!
# What commands leave of the session

What a line leaves to the next is the environment of the shell and the directory of the
process. Most built-in commands leave both as they were, however they end (`Action.Stays`). The
other two change them in their last step, behind everything that can fail but for flushing what
was written before. So a command that fails, also in telling that it failed, leaves the session,
unless the streams that it was given could not be flushed (`Builtin.failsInPlace_action`). A
program that fails to start leaves the whole state (`ProgramCall.run_error`).
-/

namespace CommandShell

namespace State

/-- The session is as it was, and no directory went away. -/
structure Stays (st st' : State) : Prop extends SameSession st st' where
  directories : st.tree.KeepsDirectories st'.tree

theorem Stays.refl (st : State) : st.Stays st :=
  { SameSession.refl st with directories := .refl st.tree }

theorem Stays.trans {st st' st'' : State} (h : st.Stays st') (h' : st'.Stays st'') :
    st.Stays st'' :=
  { h.toSameSession.trans h'.toSameSession with directories := h.directories.trans h'.directories }

theorem Alike.stays {st st' : State} (h : st.Alike st') : st.Stays st' :=
  { h.toSameSession with directories := h.tree.keepsDirectories }

theorem OnlyNotes.stays {st st' : State} (h : st.OnlyNotes st') : st.Stays st' :=
  h.alike.stays

theorem stays_print (st : State) (sink : Sink) (ts : List Text) :
    st.Stays (st.print sink ts).1 := by
  refine { sameSession_print st sink ts with directories := ?_ }
  unfold print
  split
  · exact (alike_put st sink ts.flatten).tree.keepsDirectories
  · exact .refl st.tree

end State

namespace Action

/-- The action leaves the session and the directories, however it ends. -/
def Stays (a : Action) : Prop :=
  ∀ (streams : Streams) (st : State), st.Stays (a streams st).1

theorem settle_fst (sinks : List Sink) (code : ExitCode) (st : State) :
    (settle sinks code st).1 = st := by
  unfold settle
  split <;> rfl

theorem settle_error {sinks : List Sink} {code : ExitCode} {st st' : State} {e : LineError}
    (h : settle sinks code st = (st', .error e)) :
    ∃ cause, e = .io cause ∧ st.flush sinks = .error cause := by
  unfold settle at h
  split at h
  · cases h
  case h_2 cause hflush =>
      cases h
      exact ⟨cause, rfl, hflush⟩

theorem stays_tell (sink : Sink) (line : Text) (flushed : List Sink) (code : ExitCode)
    (st : State) : st.Stays (tell sink line flushed code st).1 := by
  have hprint := st.stays_print sink [line, ['\n']]
  unfold tell
  split
  case h_1 heq =>
      rw [heq] at hprint
      rw [settle_fst]
      exact hprint
  case h_2 heq =>
      rw [heq] at hprint
      exact hprint

theorem tell_error {sink : Sink} {line : Text} {flushed : List Sink} {code : ExitCode}
    {st st' : State} {e : LineError} (h : tell sink line flushed code st = (st', .error e)) :
    ∃ cause, e = .io cause := by
  unfold tell at h
  split at h
  · obtain ⟨cause, he, -⟩ := settle_error h
    exact ⟨cause, he⟩
  · cases h
    exact ⟨_, rfl⟩

theorem stays_help (text : Text) : (help text).Stays :=
  fun _ st => stays_tell _ _ _ _ st

theorem stays_refusal (message : Text) : (refusal message).Stays :=
  fun _ st => stays_tell _ _ _ _ st

theorem stays_ofBody {body : Sink → State → State × Except Text ExitCode}
    (h : ∀ (sink : Sink) (st : State), st.Stays (body sink st).1) : (ofBody body).Stays := by
  intro streams st
  have hbody := h streams.out st
  unfold ofBody
  split
  case h_1 heq =>
      rw [heq] at hbody
      rw [settle_fst]
      exact hbody
  case h_2 heq =>
      rw [heq] at hbody
      exact hbody.trans (stays_tell _ _ _ _ _)

theorem stays_writeBody (ts : List Text) (sink : Sink) (st : State) :
    st.Stays (writeBody ts sink st).1 := by
  have hprint := st.stays_print sink ts
  unfold writeBody
  split
  case h_1 heq =>
      rw [heq] at hprint
      exact hprint
  case h_2 heq =>
      rw [heq] at hprint
      exact hprint

/-- If the action fails, then in writing or flushing. It leaves the session, unless the streams
could not be flushed from the start. -/
def FailsInPlace (a : Action) : Prop :=
  ∀ {streams : Streams} {st st' : State} {e : LineError}, a streams st = (st', .error e) →
    ∃ cause, e = .io cause ∧
      (st.SameSession st' ∨ st.flush [streams.out, streams.err] = .error cause)

theorem failsInPlace_help (text : Text) : (help text).FailsInPlace := by
  intro streams st st' e h
  have hsame := (stays_help text streams st).toSameSession
  rw [h] at hsame
  obtain ⟨cause, he⟩ := tell_error h
  exact ⟨cause, he, .inl hsame⟩

theorem failsInPlace_refusal (message : Text) : (refusal message).FailsInPlace := by
  intro streams st st' e h
  have hsame := (stays_refusal message streams st).toSameSession
  rw [h] at hsame
  obtain ⟨cause, he⟩ := tell_error h
  exact ⟨cause, he, .inl hsame⟩

/-- The failure of a body is told on the standard error, which can fail in turn. -/
theorem failsInPlace_ofBody {body : Sink → State → State × Except Text ExitCode}
    (hbody : ∀ sink st, st.SameSession (body sink st).1 ∨
      (∃ code, (body sink st).2 = .ok code) ∧ (body sink st).1.standard = st.standard) :
    (ofBody body).FailsInPlace := by
  intro streams st st' e h
  have hbody := hbody streams.out st
  unfold ofBody at h
  rcases hrun : body streams.out st with ⟨st₁, message | code⟩
  · rw [hrun] at h hbody
    dsimp only at h hbody
    obtain hsame | ⟨⟨code, hcode⟩, -⟩ := hbody
    · have htold := (stays_tell streams.err message [streams.out, streams.err] 1 st₁).toSameSession
      rw [h] at htold
      obtain ⟨cause, he⟩ := tell_error h
      exact ⟨cause, he, .inl (hsame.trans htold)⟩
    · cases hcode
  · rw [hrun] at h hbody
    dsimp only at h hbody
    obtain ⟨cause, he, hflush⟩ := settle_error h
    obtain rfl : st₁ = st' := by
      rw [← settle_fst [streams.out, streams.err] code st₁, h]
    obtain hsame | ⟨-, hstandard⟩ := hbody
    · exact ⟨cause, he, .inl hsame⟩
    · rw [State.flush_of_standard_eq hstandard] at hflush
      exact ⟨cause, he, .inr hflush⟩

end Action

namespace Describe

theorem stays_writeAll (sink : Sink) (code : ExitCode) (ns : List Text) (st : State) :
    st.Stays (writeAll sink code ns st).1 := by
  induction ns generalizing code st with
  | nil => exact .refl st
  | cons n ns ih =>
      have hprint := st.stays_print sink ((describe st n).pieces n)
      rw [writeAll]
      split
      case h_1 heq =>
          rw [heq] at hprint
          exact hprint
      case h_2 heq =>
          rw [heq] at hprint
          exact hprint.trans (ih _ _)

/-- The lines are written, and the names are only looked up. -/
theorem stays_body (d : Describe) (sink : Sink) (st : State) :
    st.Stays (d.body sink st).1 := by
  unfold body
  split
  · exact .refl st
  · exact stays_writeAll _ _ _ _

theorem stays_action (d : Describe) : d.action.Stays := Action.stays_ofBody d.stays_body

theorem failsInPlace_action (d : Describe) : d.action.FailsInPlace :=
  Action.failsInPlace_ofBody fun sink st => .inl (d.stays_body sink st).toSameSession

end Describe

namespace Echo

theorem stays_action (e : Echo) : e.action.Stays :=
  Action.stays_ofBody (Action.stays_writeBody _)

theorem failsInPlace_action (e : Echo) : e.action.FailsInPlace :=
  Action.failsInPlace_ofBody fun sink st => .inl (Action.stays_writeBody _ sink st).toSameSession

end Echo

namespace PrintDirectory

theorem stays_action : PrintDirectory.action.Stays :=
  Action.stays_ofBody fun _ st => Action.stays_writeBody _ _ st

theorem failsInPlace_action : PrintDirectory.action.FailsInPlace :=
  Action.failsInPlace_ofBody fun sink st => .inl (Action.stays_writeBody _ sink st).toSameSession

end PrintDirectory

namespace ChangeDirectory

theorem move_of_error {c : ChangeDirectory} {st : State} {e : Failure} (h : c.goal st = .error e) :
    c.move st = (st, .error e) := by
  simp only [move, h]

/-- If the system refuses the first step, the second is not taken. -/
theorem move_of_barred {c : ChangeDirectory} {st : State} {place : Place} {path : Path}
    {cause : OsError} (h : c.goal st = .ok (place, path))
    (hbarred : st.barred.lookup place.address = some cause) :
    c.move st = (st, .error (.refused path cause)) := by
  simp only [move, h, State.enter, hbarred]

theorem move_of_ok {c : ChangeDirectory} {st : State} {place : Place} {path : Path}
    (h : c.goal st = .ok (place, path)) (hbarred : st.barred.lookup place.address = none) :
    c.move st =
      ({ st with workDir := place, env := { st.env with currentDir := path } }, .ok ()) := by
  simp only [move, h, State.enter, hbarred]

/-- Both directories have moved, or neither. -/
theorem move_cases (c : ChangeDirectory) (st : State) :
    (∃ e, c.move st = (st, .error e)) ∨
      ∃ place path, c.goal st = .ok (place, path) ∧ st.barred.lookup place.address = none ∧
        c.move st =
          ({ st with workDir := place, env := { st.env with currentDir := path } }, .ok ()) := by
  rcases hgoal : c.goal st with e | ⟨place, path⟩
  · exact .inl ⟨e, move_of_error hgoal⟩
  rcases hbarred : st.barred.lookup place.address with _ | cause
  · exact .inr ⟨place, path, rfl, hbarred, move_of_ok hgoal hbarred⟩
  · exact .inl ⟨_, move_of_barred hgoal hbarred⟩

/-- The move is the last step of the command but for flushing. -/
theorem action_of_move_ok {c : ChangeDirectory} {st st' : State} (h : c.move st = (st', .ok ()))
    (streams : Streams) :
    c.action streams st = Action.settle [streams.out, streams.err] 0 st' := by
  simp only [action, Action.ofBody, h]

theorem action_of_move_error {c : ChangeDirectory} {st : State} {e : Failure}
    (h : c.move st = (st, .error e)) (streams : Streams) :
    c.action streams st = Action.tell streams.err e.message [streams.out, streams.err] 1 st := by
  simp only [action, Action.ofBody, h]

theorem failsInPlace_action (c : ChangeDirectory) : c.action.FailsInPlace := by
  refine Action.failsInPlace_ofBody ?_
  intro sink st
  obtain ⟨e, hmove⟩ | ⟨place, path, -, -, hmove⟩ := c.move_cases st
  · rw [hmove]
    exact .inl (.refl st)
  · rw [hmove]
    exact .inr ⟨⟨0, rfl⟩, rfl⟩

end ChangeDirectory

/-- A request to exit writes nothing. -/
theorem Exit.failsInPlace_action (e : Exit) : e.action.FailsInPlace :=
  Action.failsInPlace_ofBody fun _ _ => .inr ⟨⟨_, rfl⟩, rfl⟩

namespace Builtin

theorem failsInPlace_ofGrammar {g : ArgumentGrammar} {args : List Text}
    {run : Arguments → Action} (hrun : ∀ a, (run a).FailsInPlace) :
    (ofGrammar g args run).FailsInPlace := by
  unfold ofGrammar
  split
  · exact Action.failsInPlace_refusal _
  · exact Action.failsInPlace_help _
  · exact hrun _

theorem failsInPlace_action (b : Builtin) (args : List Text) : (b.action args).FailsInPlace := by
  cases b with
  | cd => exact failsInPlace_ofGrammar fun _ => ChangeDirectory.failsInPlace_action _
  | echo => exact Echo.failsInPlace_action _
  | exit =>
      unfold action
      dsimp only
      split
      · exact Action.failsInPlace_refusal _
      · exact Exit.failsInPlace_action _
  | pwd => exact failsInPlace_ofGrammar fun _ => PrintDirectory.failsInPlace_action
  | type => exact failsInPlace_ofGrammar fun _ => Describe.failsInPlace_action _

end Builtin

namespace ProgramCall

theorem run_error {c : ProgramCall} {pf : Platform} {held : List Address} {streams : Streams}
    {st st' : State} {e : LineError} (h : c.run pf held streams st = (st', .error e)) :
    st' = st ∧ ((∃ cause, e = .io cause ∧ st.flush [streams.out, streams.err] = .error cause) ∨
      ∃ cause, e = .spawn c.name cause) := by
  unfold run at h
  split at h
  case h_1 cause hflush =>
      cases h
      exact ⟨rfl, .inl ⟨cause, rfl, hflush⟩⟩
  split at h
  · cases h
    exact ⟨rfl, .inr ⟨_, rfl⟩⟩
  · cases h

end ProgramCall

end CommandShell
