import CommandShell.Probe
import CommandShell.Proofs.Path.Components
import CommandShell.Proofs.Shell.Turn

/-!
# The home directory in a target

What `cd` leaves depends only on where its target leads (`ChangeDirectory.arrival?`), and
that is told by the steps of the path. So a target behind the tilde and one behind the path
of the home directory have the same outcome where the one path is the other, or has one
separator more.

But the two are joined as a directory and a path, not as texts: with a second separator
behind the tilde what is left is an absolute path, and the home directory does not count.
The main statement is `ChangeDirectory.sameOutcome_home_iff`.
-/

namespace CommandShell

namespace FileTree

theorem resolve?_append_separators (t : FileTree) (start : Place) (d p : Path) :
    t.resolve? start (d ++ '/' :: '/' :: p) = t.resolve? start (d ++ '/' :: p) := by
  unfold resolve?
  rw [origin_append_separators, Step.ofPath_append_separators]
  simp

/-- A relative path joined to a directory leads where the two lead with a separator in
between. -/
theorem resolve?_join (t : FileTree) (start : Place) {d p : Path} (hd : d ≠ [])
    (hp : Path.isAbsolute p = false) :
    t.resolve? start (Path.join d p) = t.resolve? start (d ++ '/' :: p) := by
  obtain hjoin | ⟨e, hbetween, hjoin⟩ := Path.join_eq_or hd hp
  · rw [hjoin]
  · rw [hjoin, hbetween, resolve?_append_separators]

end FileTree

namespace ChangeDirectory

variable {c c' : ChangeDirectory} {st : State} {streams : Streams}

/-- The state behind a move to a directory with its path, unless the system refuses it. -/
def moved? (st : State) (goal : Place × Path) : Option State :=
  match st.barred.lookup goal.1.address with
  | some _ => none
  | none => some { st with workDir := goal.1, env := { st.env with currentDir := goal.2 } }

/-- Where `cd` leaves the shell and its process; none if it fails. -/
def arrival? (c : ChangeDirectory) (st : State) : Option State :=
  (c.goal st).toOption.bind (moved? st)

/-- Both go to the same directory and take over the same path, or both fail, which leaves
nothing but a message. -/
inductive SameOutcome (c c' : ChangeDirectory) (streams : Streams) (st : State) : Prop
  | moves {st'}
      (h : c.move st = (st', .ok ())) (h' : c'.move st = (st', .ok ()))
      (haction : c.action streams st = Action.settle [streams.out, streams.err] 0 st')
      (haction' : c'.action streams st = Action.settle [streams.out, streams.err] 0 st')
  | fails {e e'}
      (h : c.move st = (st, .error e)) (h' : c'.move st = (st, .error e'))
      (haction : c.action streams st =
        Action.tell streams.err e.message [streams.out, streams.err] 1 st)
      (haction' : c'.action streams st =
        Action.tell streams.err e'.message [streams.out, streams.err] 1 st)

theorem arrival?_eq_some_iff {st' : State} :
    c.arrival? st = some st' ↔ c.move st = (st', .ok ()) := by
  unfold arrival? moved?
  rcases hgoal : c.goal st with e | ⟨place, path⟩
  · rw [move_of_error hgoal]
    simp [Except.toOption]
  rcases hbarred : st.barred.lookup place.address with _ | cause
  · rw [move_of_ok hgoal hbarred]
    simp [Except.toOption, hbarred]
  · rw [move_of_barred hgoal hbarred]
    simp [Except.toOption, hbarred]

theorem arrival?_eq_none_iff : c.arrival? st = none ↔ ∃ e, c.move st = (st, .error e) := by
  obtain ⟨e, hmove⟩ | ⟨place, path, -, -, hmove⟩ := c.move_cases st
  · refine iff_of_true ?_ ⟨e, hmove⟩
    rw [Option.eq_none_iff_forall_ne_some]
    intro st' harrival
    rw [arrival?_eq_some_iff.1 harrival] at hmove
    cases hmove
  · rw [arrival?_eq_some_iff.2 hmove, hmove]
    simp

theorem sameOutcome_iff : SameOutcome c c' streams st ↔ c.arrival? st = c'.arrival? st := by
  constructor
  · rintro (⟨h, h', -, -⟩ | ⟨h, h', -, -⟩)
    · rw [arrival?_eq_some_iff.2 h, arrival?_eq_some_iff.2 h']
    · rw [arrival?_eq_none_iff.2 ⟨_, h⟩, arrival?_eq_none_iff.2 ⟨_, h'⟩]
  · intro h
    rcases harrival : c.arrival? st with _ | st'
    · rw [harrival] at h
      obtain ⟨e, hc⟩ := arrival?_eq_none_iff.1 harrival
      obtain ⟨e', hc'⟩ := arrival?_eq_none_iff.1 h.symm
      exact .fails hc hc' (action_of_move_error hc _) (action_of_move_error hc' _)
    · rw [harrival] at h
      have hc := arrival?_eq_some_iff.1 harrival
      have hc' := arrival?_eq_some_iff.1 h.symm
      exact .moves hc hc' (action_of_move_ok hc _) (action_of_move_ok hc' _)

/-- What is shown in a message does not matter to where a path leads. -/
theorem toOption_directoryAt {t : FileTree} {start : Place} {p p' : Path}
    (h : t.resolve? start p = t.resolve? start p') (shown shown' : Text) :
    (directoryAt t start shown p).toOption = (directoryAt t start shown' p').toOption := by
  unfold directoryAt
  rw [h]
  rcases t.resolve? start p' with _ | landing
  · rfl
  dsimp only
  rcases landing.canonicalPath? with _ | path
  · rfl
  cases landing with
  | directory place =>
      dsimp only
      split
      · rfl
      · rfl
  | occupied place name node => rfl
  | vacant place name => rfl

theorem arrival?_eq (c : ChangeDirectory) (st : State) :
    c.arrival? st =
      ((destination? c.target (st.valueOf? Environment.homeVariable) st.env.currentDir).bind
        fun p => (directoryAt st.tree st.workDir [] p).toOption).bind (moved? st) := by
  unfold arrival? goal
  congr 1
  rcases destination? c.target (st.valueOf? Environment.homeVariable) st.env.currentDir with _ | p
  · rfl
  · exact toOption_directoryAt rfl c.shown []

/-- Behind the tilde the rest is a path seen from the home directory. -/
theorem arrival?_home {home : Path} (hhome : st.valueOf? Environment.homeVariable = some home)
    (habsolute : Path.isAbsolute home = true) (rest : Path) :
    (ChangeDirectory.mk (some ('~' :: '/' :: rest))).arrival? st =
      (directoryAt st.tree st.workDir [] (Path.join home rest)).toOption.bind (moved? st) := by
  rw [arrival?_eq, hhome]
  have hdestination : destination? (some ('~' :: '/' :: rest)) (some home) st.env.currentDir =
      some (Path.join st.env.currentDir (Path.join home rest)) := rfl
  rw [hdestination, Path.join_of_isAbsolute _ (Path.isAbsolute_join habsolute)]
  rfl

theorem arrival?_of_isAbsolute {target : Path} (habsolute : Path.isAbsolute target = true) :
    (ChangeDirectory.mk (some target)).arrival? st =
      (directoryAt st.tree st.workDir [] target).toOption.bind (moved? st) := by
  obtain ⟨t, rfl⟩ := Path.eq_cons_of_isAbsolute habsolute
  have hdestination : destination? (some ('/' :: t)) (st.valueOf? Environment.homeVariable)
      st.env.currentDir = some (Path.join st.env.currentDir ('/' :: t)) := by
    simp [destination?]
  rw [arrival?_eq, hdestination, Path.join_of_isAbsolute _ habsolute]
  rfl

/-- A target behind the tilde has the same outcome as that behind the path of the home
directory, if it does not begin with one more separator; with one it is itself the path to
go to, and the home directory counts no more. -/
theorem sameOutcome_home_iff {home : Path}
    (hhome : st.valueOf? Environment.homeVariable = some home)
    (habsolute : Path.isAbsolute home = true) (rest : Path) (streams : Streams) :
    let tilde : ChangeDirectory := ⟨some ('~' :: '/' :: rest)⟩
    let spelled : ChangeDirectory := ⟨some (home ++ '/' :: rest)⟩
    let plain : ChangeDirectory := ⟨some rest⟩
    (Path.isAbsolute rest = false → SameOutcome tilde spelled streams st) ∧
    (Path.isAbsolute rest = true → SameOutcome tilde plain streams st) ∧
    (SameOutcome tilde spelled streams st ↔
      Path.isAbsolute rest = false ∨ SameOutcome plain spelled streams st) := by
  intro tilde spelled plain
  have hrelative : Path.isAbsolute rest = false → SameOutcome tilde spelled streams st := by
    intro hrest
    have hne : home ≠ [] := by
      rintro rfl
      cases habsolute
    have hspelled : Path.isAbsolute (home ++ '/' :: rest) = true := by
      obtain ⟨t, rfl⟩ := Path.eq_cons_of_isAbsolute habsolute
      rfl
    rw [sameOutcome_iff, arrival?_home hhome habsolute, arrival?_of_isAbsolute hspelled]
    rw [toOption_directoryAt (FileTree.resolve?_join _ _ hne hrest) [] []]
  have hplain : Path.isAbsolute rest = true → SameOutcome tilde plain streams st := by
    intro hrest
    rw [sameOutcome_iff, arrival?_home hhome habsolute, arrival?_of_isAbsolute hrest,
      Path.join_of_isAbsolute home hrest]
  refine ⟨hrelative, hplain, ?_⟩
  cases hrest : Path.isAbsolute rest with
  | false => simp [hrelative hrest]
  | true =>
      have hsame := sameOutcome_iff.1 (hplain hrest)
      simp [sameOutcome_iff, hsame]

/-- Down from a home directory that ends with a separator and up again; and not down from
it, with one separator too many. -/
theorem sameOutcome_home_of_separator :
    let sh : Shell := ⟨.standard, Probe.platform⟩
    let st := sh.start ⟨[(["h".toList], .directory), (["d".toList, "h".toList], .directory)]⟩ .root
      ⟨[("HOME".toList, "/h/".toList)]⟩ []
    SameOutcome ⟨some "~/d/.//..".toList⟩ ⟨some "/h//d/.//..".toList⟩ .own st ∧
      ((ChangeDirectory.mk (some "~/d/.//..".toList)).action .own st).1.env.currentDir =
        "/h".toList ∧
      SameOutcome ⟨some "~//d".toList⟩ ⟨some "/d".toList⟩ .own st ∧
      ¬ SameOutcome ⟨some "~//d".toList⟩ ⟨some "/h///d".toList⟩ .own st := by
  intro sh st
  have hhome : st.valueOf? Environment.homeVariable = some "/h/".toList := by decide +kernel
  obtain ⟨hrelative, -, -⟩ := sameOutcome_home_iff hhome rfl "d/.//..".toList .own
  obtain ⟨-, hplain, hsame⟩ := sameOutcome_home_iff hhome rfl "/d".toList .own
  refine ⟨hrelative rfl, by decide +kernel, hplain rfl, ?_⟩
  intro h
  obtain hrest | hboth := hsame.1 h
  · cases hrest
  · exact absurd (sameOutcome_iff.1 hboth) (by decide +kernel)

/-- With a second separator behind the tilde a directory below the home directory is not
found, and the root takes the place of the home directory. -/
theorem not_sameOutcome_home :
    let sh : Shell := ⟨.standard, Probe.platform⟩
    let st := sh.start ⟨[(["h".toList], .directory), (["d".toList, "h".toList], .directory)]⟩ .root
      ⟨[("HOME".toList, "/h".toList)]⟩ []
    st.valueOf? Environment.homeVariable = some "/h".toList ∧
      ¬ SameOutcome ⟨some "~//d".toList⟩ ⟨some "/h//d".toList⟩ .own st ∧
      ((ChangeDirectory.mk (some "/h//d".toList)).action .own st).1.env.currentDir =
        "/h/d".toList ∧
      ((ChangeDirectory.mk (some "~//".toList)).action .own st).1.env.currentDir = ['/'] ∧
      ((ChangeDirectory.mk (some "/h//".toList)).action .own st).1.env.currentDir =
        "/h".toList := by
  intro sh st
  refine ⟨by decide +kernel, ?_, by decide +kernel, by decide +kernel, by decide +kernel⟩
  intro h
  exact absurd (sameOutcome_iff.1 h) (by decide +kernel)

end ChangeDirectory

end CommandShell
