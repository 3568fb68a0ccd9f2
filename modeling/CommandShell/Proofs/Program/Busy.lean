import CommandShell.Program

/-!
# Programs that are open for writing

The files that are open for writing matter to the start of a program in one way only: if
it is about to execute one of them, it is refused as busy. So with any files open a start
either is refused for one of them, as it is when this one alone is open, or goes on as
with none (`BusyOnly`). The main statement is `ProgramCall.busyOnly_startIn`.
-/

namespace CommandShell

/-- A start that is tried while files are open for writing is refused as busy if it is for
one of them alone, and otherwise is not affected. -/
structure BusyOnly {α : Type} (start : List Address → Except IoError α) : Prop where
  refused : ∀ {busy a}, a ∈ busy → start [a] = .error (.os .fileBusy) →
    start busy = .error (.os .fileBusy)
  unaffected : ∀ {busy}, (∀ a ∈ busy, start [a] ≠ .error (.os .fileBusy)) →
    start busy = start []

namespace BusyOnly

variable {α β : Type}

theorem const (r : Except IoError α) : BusyOnly fun _ => r where
  refused := fun _ h => h
  unaffected := fun _ => rfl

/-- One file is executed. -/
theorem file (a : Address) (x : α) :
    BusyOnly fun busy => if busy.contains a then .error (.os .fileBusy) else .ok x := by
  constructor
  · intro busy b hb h
    by_cases hab : a = b
    · rw [if_pos (List.contains_iff_mem.2 (hab ▸ hb))]
    · simp [hab] at h
  · intro busy h
    have ha : a ∉ busy := by
      intro ha
      exact h a ha (by simp)
    simp [ha]

/-- What is tried next depends on what came of the first start. -/
theorem next {start : List Address → Except IoError α} (h : BusyOnly start)
    (after : Except IoError α → List Address → Except IoError β)
    (hbusy : ∀ busy, after (.error (.os .fileBusy)) busy = .error (.os .fileBusy))
    (hafter : ∀ r, BusyOnly (after r)) : BusyOnly fun busy => after (start busy) busy := by
  -- A file for which the first start is not refused leaves it as with no file open.
  have halone : ∀ {a}, start [a] ≠ .error (.os .fileBusy) → start [a] = start [] := by
    intro a ha
    exact h.unaffected (by simpa using ha)
  constructor
  · intro busy a ha hrefused
    by_cases hfirst : ∃ b ∈ busy, start [b] = .error (.os .fileBusy)
    · obtain ⟨b, hb, hstart⟩ := hfirst
      rw [h.refused hb hstart, hbusy]
    · have hnone : ∀ b ∈ busy, start [b] ≠ .error (.os .fileBusy) := by
        intro b hb hstart
        exact hfirst ⟨b, hb, hstart⟩
      rw [halone (hnone a ha)] at hrefused
      rw [h.unaffected hnone]
      exact (hafter _).refused ha hrefused
  · intro busy hnone
    have hfirst : ∀ b ∈ busy, start [b] ≠ .error (.os .fileBusy) := by
      intro b hb hstart
      exact hnone b hb (by rw [hstart, hbusy])
    rw [h.unaffected hfirst]
    refine (hafter _).unaffected ?_
    intro a ha hrefused
    refine hnone a ha ?_
    rw [halone (hfirst a ha), hrefused]

/-- More open files make no difference if none of the others is executed. -/
theorem eq_of_subset {start : List Address → Except IoError α} (h : BusyOnly start)
    {busy busy' : List Address} (hsub : busy ⊆ busy')
    (hidle : ∀ a ∈ busy', a ∉ busy → start [a] ≠ .error (.os .fileBusy)) :
    start busy' = start busy := by
  by_cases hrefused : ∃ a ∈ busy, start [a] = .error (.os .fileBusy)
  · obtain ⟨a, ha, hstart⟩ := hrefused
    rw [h.refused ha hstart, h.refused (hsub ha) hstart]
  · have hnone : ∀ a ∈ busy, start [a] ≠ .error (.os .fileBusy) :=
      fun a ha hstart => hrefused ⟨a, ha, hstart⟩
    rw [h.unaffected hnone]
    refine h.unaffected ?_
    intro a ha
    by_cases hbusy : a ∈ busy
    · exact hnone a hbusy
    · exact hidle a ha hbusy

theorem of_eq {start start' : List Address → Except IoError α} (h : BusyOnly start)
    (heq : ∀ busy, start' busy = start busy) : BusyOnly start' := by
  obtain rfl : start' = start := funext heq
  exact h

/-- What is tried behind a first start, unless that failed. -/
def andThen (after : α → Except IoError β) : Except IoError α → Except IoError β
  | .error e => .error e
  | .ok a => after a

theorem bind {start : List Address → Except IoError α} (h : BusyOnly start)
    (after : α → List Address → Except IoError β) (hafter : ∀ a, BusyOnly (after a)) :
    BusyOnly fun busy => andThen (fun a => after a busy) (start busy) := by
  refine h.next (fun r busy => andThen (fun a => after a busy) r) (fun _ => rfl) ?_
  rintro (e | a)
  · exact .const _
  · exact hafter a

end BusyOnly

namespace ProgramCall

theorem busyOnly_executableAt (t : FileTree) (dir : Place) (p : Path) :
    BusyOnly fun busy => executableAt t dir busy p := by
  unfold executableAt
  rcases t.locate .find dir p with e | ⟨q⟩ | ⟨q, n, ⟨⟩ | ⟨permissions, c⟩ | target | d⟩ | ⟨q, n⟩
  case ok.occupied.file =>
      by_cases hmay : FileTree.mayExecute permissions = true
      · simp only [hmay, Bool.not_true, Bool.false_eq_true, if_false]
        exact .file _ _
      · simp only [hmay, Bool.not_false, if_true]
        exact .const _
  all_goals exact .const _

theorem busyOnly_interpreterAt (t : FileTree) (dir : Place) (p : Path) :
    BusyOnly fun busy => interpreterAt t dir busy p := by
  unfold interpreterAt
  split
  · exact .const _
  · exact busyOnly_executableAt t dir p

theorem busyOnly_throughScripts (t : FileTree) (dir : Place) (limit : Nat) (p : Path)
    (argv : List Text) (contents : Contents) :
    BusyOnly fun busy => throughScripts t dir busy limit p argv contents := by
  induction limit generalizing p argv contents with
  | zero =>
      rcases contents with script | ⟨id, appended⟩
      · simp only [throughScripts]
        split
        · exact .const _
        case h_2 i _ =>
            refine ((busyOnly_interpreterAt t dir i.path).bind
              (fun _ _ => .error (.os .linkLoop)) fun _ => .const _).of_eq ?_
            intro busy
            rcases interpreterAt t dir busy i.path with e | contents
            · rfl
            · rfl
      · exact .const _
  | succ limit ih =>
      rcases contents with script | ⟨id, appended⟩
      · simp only [throughScripts]
        split
        · exact .const _
        case h_2 i _ =>
            refine ((busyOnly_interpreterAt t dir i.path).bind
              (fun contents busy => throughScripts t dir busy limit i.path
                (i.path :: i.argument.toList ++ p :: argv.tail) contents)
              fun _ => ih _ _ _).of_eq ?_
            intro busy
            rcases interpreterAt t dir busy i.path with e | contents
            · rfl
            · rfl
      · exact .const _

/-- What starts where a text that is no script may be left to the shell of the system. -/
def orSystemShell (shell : Bool) (p : Path) (argv : List Text) (contents : Contents) :
    Except IoError Startup → Except IoError Startup
  | .error (.os .notExecutable) =>
    if shell then withSystemShell p argv contents else .error (.os .notExecutable)
  | r => r

/-- What is tried among the other paths, by what came of the first. -/
def startAfter (start : Path → Except IoError Startup) (denied : Bool) (ps : List Path) :
    Except IoError Startup → Except IoError Startup
  | .ok s => .ok s
  | .error (.os .permissionDenied) => startAmong start true .permissionDenied ps
  | .error (.os .notFound) => startAmong start denied .notFound ps
  | .error (.os .notDirectory) => startAmong start denied .notDirectory ps
  | .error e => .error e

section

variable (t : FileTree) (dir : Place) (environ argv : List Text) (shell : Bool)

theorem busyOnly_startAt (p : Path) :
    BusyOnly fun busy => startAt t dir busy environ argv shell p := by
  refine ((busyOnly_executableAt t dir p).bind (fun contents busy =>
    if (argv ++ environ).any (argumentLimit ≤ Text.utf8Size ·) then .error (.os .argumentsTooLong)
    else orSystemShell shell p argv contents
      (throughScripts t dir busy scriptLimit p argv contents)) ?_).of_eq ?_
  · intro contents
    split
    · exact .const _
    · exact (busyOnly_throughScripts t dir scriptLimit p argv contents).next
        (fun r _ => orSystemShell shell p argv contents r) (fun _ => rfl) fun _ => .const _
  · intro busy
    unfold startAt
    rcases executableAt t dir busy p with e | contents
    · rfl
    · rfl

theorem busyOnly_startAmong (denied : Bool) (last : OsError) (ps : List Path) :
    BusyOnly fun busy =>
      startAmong (startAt t dir busy environ argv shell) denied last ps := by
  induction ps generalizing denied last with
  | nil => exact .const _
  | cons p ps ih =>
      refine ((busyOnly_startAt t dir environ argv shell p).next
        (fun r busy => startAfter (startAt t dir busy environ argv shell) denied ps r)
        (fun _ => rfl) ?_).of_eq fun _ => rfl
      intro r
      unfold startAfter
      split
      · exact .const _
      · exact ih _ _
      · exact ih _ _
      · exact ih _ _
      · exact .const _

theorem busyOnly_startup (pf : Platform) (program : Path) :
    BusyOnly fun busy => startup pf t dir busy environ argv shell program := by
  unfold startup
  split
  · exact busyOnly_startAt t dir environ argv false program
  split
  · exact .const _
  · exact busyOnly_startAmong t dir environ argv shell false .notFound _

end

/-- The directory in which the program starts and what starts there, while some files are
open for writing. -/
def startIn (c : ProgramCall) (pf : Platform) (st : State) (busy : List Address) :
    Except IoError (Place × Startup) :=
  let argv := c.name :: c.args
  let environ := st.programAssignments
  if (c.program :: st.env.currentDir :: argv ++ environ).any (·.contains '\x00') then
    .error .nulInArgument
  else
    match enter st.tree st.workDir st.env.currentDir with
    | .error e => .error e
    | .ok dir =>
      (startup pf st.tree dir busy environ argv
        (st.env.vars.get? Environment.pathVariable).isSome c.program).map fun s => (dir, s)

theorem busyOnly_startIn (c : ProgramCall) (pf : Platform) (st : State) :
    BusyOnly (c.startIn pf st) := by
  unfold startIn
  dsimp only
  split
  · exact .const _
  split
  · exact .const _
  · refine (busyOnly_startup _ _ _ _ _ pf c.program).next
      (fun r _ => r.map _) (fun _ => rfl) ?_
    intro r
    exact .const _

/-- What a program that starts is, and what it is started with. -/
def invocation (st : State) (source : Source) (s : Place × Startup) : Image × Invocation :=
  (s.2.image, {
    argv := s.2.argv
    environ := st.programAssignments
    workDir := s.1.path?
    input := match source with
      | .inherited => st.input.unread
      | .memory _ => [] })

/-- Of the streams only the input and the open files matter. -/
theorem prepare_eq (c : ProgramCall) (pf : Platform) (st : State) (streams : Streams)
    (held : List Address) :
    c.prepare pf st streams held =
      (c.startIn pf st (streams.files ++ held)).map (invocation st streams.input) := by
  unfold prepare startIn
  dsimp only
  split
  · rfl
  rcases enter st.tree st.workDir st.env.currentDir with e | dir
  · rfl
  · dsimp only
    rcases startup pf st.tree dir (streams.files ++ held) st.programAssignments
      (c.name :: c.args) (st.env.vars.get? Environment.pathVariable).isSome c.program with e | s
    · rfl
    · rfl

end ProgramCall

end CommandShell
