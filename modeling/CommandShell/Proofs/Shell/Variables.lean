import CommandShell.Probe
import CommandShell.Proofs.Shell.Environment

/-!
# The variables that the shell and its programs see

The shell looks a name up in its own variables, into which it has collected those of its
process, and then in the process itself; a program is started with what was collected and the
shell's own variables laid over it. The two agree on a name unless the process was started with
two values of it, of which the shell finds the first and collects the last
(`State.inBlock?_programAssignments_iff`). This is for names that an assignment can carry. That
the names are such is what is carried along: the variables of a process are named so, and lines
leave both maps alone, so only setting a variable adds a name.

What is done with a shell are `Shell.Act`s, one behind the other (`Shell.History`). What a
variable of the shell is afterwards can be told from the acts (`Act.own?`): a variable that
was taken out and not set again is that of the process.

The main statement is `Shell.programs_see_variables`.
-/

namespace CommandShell

namespace ProgramCall

/-- A program is started with the assignments of the state. -/
theorem environ_of_prepare {c : ProgramCall} {pf : Platform} {st : State} {streams : Streams}
    {held : List Address} {image : Image} {i : Invocation}
    (h : c.prepare pf st streams held = .ok (image, i)) : i.environ = st.programAssignments := by
  rw [prepare_eq] at h
  rcases hstart : c.startIn pf st (streams.files ++ held) with e | s
  · rw [hstart] at h
    cases h
  · rw [hstart] at h
    cases h
    rfl

theorem run_of_prepare {c : ProgramCall} {pf : Platform} {st : State} {streams : Streams}
    {held : List Address} {image : Image} {i : Invocation}
    (hflush : st.flush [streams.out, streams.err] = .ok ())
    (h : c.prepare pf st streams held = .ok (image, i)) :
    (c.run pf held streams st).2 = .ok (pf.outcome image i).status.code := by
  rw [run, hflush]
  dsimp only
  rw [h]

end ProgramCall

namespace Shell

/-- What is done with a shell: a variable is set or taken out, or a line is run. -/
inductive Act where
  | set (name value : Text)
  | unset (name : Text)
  | line (line : Text) (streams : Streams)
  deriving DecidableEq, Repr

namespace Act

/-- A variable that is set has a name that variables can have. -/
def Named : Act → Prop
  | .set name _ => Variables.IsName name
  | .unset _ => True
  | .line _ _ => True

instance : DecidablePred Named
  | .set name _ => inferInstanceAs (Decidable (Variables.IsName name))
  | .unset _ => .isTrue trivial
  | .line _ _ => .isTrue trivial

/-- The value of the shell's own variable behind the act, from that in front of it. -/
def own? (k : Text) (before : Option Text) : Act → Option Text
  | .set name value => if k = name then some value else before
  | .unset name => if k = name then none else before
  | .line _ _ => before

/-- A variable that was taken out and not set again is not one of the shell's own. -/
theorem foldl_own?_of_unset {k : Text} {before after : List Act}
    (h : ∀ value, .set k value ∉ after) (start : Option Text) :
    (before ++ .unset k :: after).foldl (own? k) start = none := by
  rw [List.foldl_append, List.foldl_cons, own?, if_pos rfl]
  induction after with
  | nil => rfl
  | cons a after ih =>
      have ha : a.own? k none = none := by
        cases a with
        | set name value =>
            have hname : k ≠ name := by
              rintro rfl
              exact h value List.mem_cons_self
            rw [own?, if_neg hname]
        | unset name => exact ite_self none
        | line line streams => rfl
      rw [List.foldl_cons, ha]
      exact ih fun value hvalue => h value (List.mem_cons_of_mem a hvalue)

end Act

/-- The state behind an act. -/
def act (sh : Shell) (st : State) : Act → State
  | .set name value => { st with env := st.env.set name value }
  | .unset name => { st with env := st.env.unset name }
  | .line line streams => (sh.runLine line streams st).1

/-- Acts one behind the other, in a process with given variables. Each starts with the
environment that the one before left, whatever else has changed meanwhile. -/
inductive History (sh : Shell) (process : Variables) :
    Environment → List Act → Environment → Prop where
  | nil (env : Environment) : History sh process env [] env
  | cons {st a rest env'} (hst : st.inherited = process)
      (h : History sh process (sh.act st a).env rest env') :
      History sh process st.env (a :: rest) env'

/-- A program starts, by itself or behind a line, whose target is opened before; with what
is left and how it ended. Its streams are flushed before. -/
inductive Starts (sh : Shell) (st : State) :
    State × Except LineError ExitCode → Image → Invocation → Prop where
  | call {c : ProgramCall} {held streams image i}
      (hflush : st.flush [streams.out, streams.err] = .ok ())
      (h : c.prepare sh.platform st streams held = .ok (image, i)) :
      Starts sh st (c.run sh.platform held streams st) image i
  | line {line streams ts p c st' streams' image i} (hlex : Token.ofLine line = .ok ts)
      (hparse : Command.parse ts = .ok (some p))
      (hdispatch : sh.dispatch st p.command.argv = .ok (.program c))
      (hopen : openStreams p.command.redirection streams
        (dispatchedState st ts p (.program c)) = (st', .ok streams'))
      (hflush : st'.flush [streams'.out, streams'.err] = .ok ())
      (h : c.prepare sh.platform st' streams' (held p.command.redirection streams) =
        .ok (image, i)) :
      Starts sh st (sh.runLine line streams st) image i

namespace Starts

variable {sh : Shell} {st : State} {out : State × Except LineError ExitCode} {image : Image}
  {i : Invocation}

theorem environ_eq (h : sh.Starts st out image i) : i.environ = st.programAssignments := by
  cases h with
  | call hflush h => exact ProgramCall.environ_of_prepare h
  | line hlex hparse hdispatch hopen hflush h =>
      -- Opening the target may change files, but not the variables.
      have hsame := (onlyNotes_dispatchedState st _ _ _).toSameSession.trans
        (sameSession_of_openStreams hopen)
      rw [ProgramCall.environ_of_prepare h, State.programAssignments, hsame.env, hsame.inherited]
      rfl

/-- The program has run, and its status is the result. -/
theorem result_eq (h : sh.Starts st out image i) :
    out.2 = .ok (sh.platform.outcome image i).status.code := by
  cases h with
  | call hflush h => exact ProgramCall.run_of_prepare hflush h
  | line hlex hparse hdispatch hopen hflush h =>
      rw [runLine_of_parse hlex hparse, hdispatch]
      dsimp only
      rw [runRedirected_eq, hopen]
      exact ProgramCall.run_of_prepare hflush h

end Starts

section

variable {sh : Shell} (hsh : sh.builtins.OfBuiltins)
include hsh

theorem vars_runLine (line : Text) (streams : Streams) (st : State) :
    (sh.runLine line streams st).1.env.vars = st.env.vars := by
  have hsession : sh.Session st.env
      [⟨line, st.flush [streams.out, streams.err], (sh.runLine line streams st).2⟩]
      (sh.runLine line streams st).1.env := .cons rfl rfl (.nil _)
  exact (hsession.through hsh).vars

theorem inherited_act (st : State) (a : Act) : (sh.act st a).inherited = st.inherited := by
  cases a with
  | set name value => rfl
  | unset name => rfl
  | line line streams => exact inherited_runLine hsh line streams st

theorem named_vars_act {st : State} {a : Act} (ha : a.Named) (h : st.env.vars.Named) :
    (sh.act st a).env.vars.Named := by
  cases a with
  | set name value => exact h.insert ha value
  | unset name => exact h.erase name
  | line line streams =>
      rw [act, vars_runLine hsh]
      exact h

theorem get?_vars_act (st : State) (a : Act) (k : Text) :
    (sh.act st a).env.vars.get? k = a.own? k (st.env.vars.get? k) := by
  cases a with
  | set name value => exact Variables.get?_insert _ _ _ _
  | unset name => exact Variables.get?_erase _ _ _
  | line line streams => rw [act, vars_runLine hsh, Act.own?]

/-- Any acts can be done from any state. -/
theorem history_foldl (acts : List Act) (st : State) :
    sh.History st.inherited st.env acts (acts.foldl sh.act st).env ∧
      (acts.foldl sh.act st).inherited = st.inherited := by
  induction acts generalizing st with
  | nil => exact ⟨.nil st.env, rfl⟩
  | cons a acts ih =>
      obtain ⟨hhistory, hinherited⟩ := ih (sh.act st a)
      rw [inherited_act hsh] at hhistory hinherited
      exact ⟨.cons rfl hhistory, hinherited⟩

namespace History

variable {process : Variables} {env env' : Environment} {acts : List Act}

theorem named_vars (h : sh.History process env acts env') (hacts : ∀ a ∈ acts, a.Named)
    (henv : env.vars.Named) : env'.vars.Named := by
  induction h with
  | nil => exact henv
  | cons _ _ ih =>
      obtain ⟨ha, hrest⟩ := List.forall_mem_cons.1 hacts
      exact ih hrest (named_vars_act hsh ha henv)

theorem get?_vars (h : sh.History process env acts env') (k : Text) :
    env'.vars.get? k = acts.foldl (Act.own? k) (env.vars.get? k) := by
  induction h with
  | nil => rfl
  | cons _ _ ih => rw [ih, get?_vars_act hsh, List.foldl_cons]

/-- The value that the acts left, or else that of the process. -/
theorem valueOf?_eq {st : State} (hprocess : st.inherited.Named)
    (h : sh.History st.inherited env acts st.env) {k : Text} (hk : '=' ∉ k.tail) :
    st.valueOf? k =
      (acts.foldl (Act.own? k) (env.vars.get? k)).or (st.inherited.get? k) := by
  rw [State.valueOf?, Environment.get?, Variables.inBlock?_assignments hprocess hk,
    h.get?_vars hsh]

end History

end

/-- Whatever has been done with a shell since it was started, a name has the value that the acts
left it, or else that of the process, where what the process was started with counts as set. Its
programs are started with exactly this value, unless the process was started with two values of the
name and the variable was taken out and not set again, while the shell has others. So in a process
without repeated names a variable that was taken out is that of the process on both sides; and where
they are shared, the search path along which names are looked up and the home directory of `cd` are
those of the programs. -/
theorem programs_see_variables {sh : Shell} (hsh : sh.builtins.OfBuiltins) {process : Variables}
    (hprocess : process.Named) :
    (∀ acts st, st.inherited = process →
      sh.History process st.env acts (acts.foldl sh.act st).env ∧
        (acts.foldl sh.act st).inherited = process) ∧
    ∀ workDir acts st, (∀ a ∈ acts, a.Named) →
      sh.History process (sh.environment workDir process) acts st.env → st.inherited = process →
        let environ := st.programAssignments
        (∀ out image i, sh.Starts st out image i →
          i.environ = environ ∧ out.2 = .ok (sh.platform.outcome image i).status.code) ∧
        (∀ k, '=' ∉ k.tail →
          let own? := acts.foldl (Act.own? k) (process.collected.get? k)
          st.valueOf? k = own?.or (process.get? k) ∧
            (Variables.inBlock? environ k = st.valueOf? k ↔
              st.env.vars.entries = [] ∨ own?.isSome ∨
                process.collected.get? k = process.get? k)) ∧
        (process.Distinct → ∀ k, '=' ∉ k.tail → Variables.inBlock? environ k = st.valueOf? k) ∧
        (∀ before k after, acts = before ++ .unset k :: after → (∀ value, .set k value ∉ after) →
          '=' ∉ k.tail → st.valueOf? k = process.get? k ∧
            (Variables.inBlock? environ k).isSome = (process.get? k).isSome ∧
            (process.Distinct → Variables.inBlock? environ k = process.get? k)) ∧
        (Variables.inBlock? environ Environment.pathVariable =
            st.valueOf? Environment.pathVariable →
          ∀ name args, program? st name args =
            (Lookup.command? st.tree st.workDir
              ((Variables.inBlock? environ Environment.pathVariable).getD [])
              st.env.currentDir name).map fun program => ⟨name, program, args⟩) ∧
        (Variables.inBlock? environ Environment.homeVariable =
            st.valueOf? Environment.homeVariable →
          ∀ c : ChangeDirectory, c.goal st =
            (ChangeDirectory.destination? c.target
              (Variables.inBlock? environ Environment.homeVariable) st.env.currentDir).elim
                (.error .homeNotSet)
                (ChangeDirectory.directoryAt st.tree st.workDir c.shown)) := by
  constructor
  · rintro acts st rfl
    exact history_foldl hsh acts st
  · rintro workDir acts st hacts hhistory rfl environ
    have hvars := hhistory.named_vars hsh hacts hprocess.collected
    have hdistinct : st.inherited.Distinct → ∀ k, '=' ∉ k.tail →
        Variables.inBlock? environ k = st.valueOf? k := by
      intro h k hk
      exact (State.inBlock?_programAssignments_iff hvars hprocess hk).2
        (.inr (.inr (h.get?_collected k)))
    refine ⟨?_, ?_, hdistinct, ?_, ?_, ?_⟩
    · intro out image i hstarts
      exact ⟨hstarts.environ_eq, hstarts.result_eq⟩
    · intro k hk own?
      have hown : st.env.vars.get? k = own? := hhistory.get?_vars hsh k
      refine ⟨hhistory.valueOf?_eq hsh hprocess hk, ?_⟩
      rw [← hown]
      exact State.inBlock?_programAssignments_iff hvars hprocess hk
    · rintro before k after rfl hafter hk
      have hown := hhistory.get?_vars hsh k
      rw [Act.foldl_own?_of_unset hafter] at hown
      have hback : st.valueOf? k = st.inherited.get? k := by
        rw [hhistory.valueOf?_eq hsh hprocess hk, Act.foldl_own?_of_unset hafter, Option.none_or]
      refine ⟨hback, ?_, fun h => (hdistinct h k hk).trans hback⟩
      rw [State.inBlock?_programAssignments hvars hprocess hk, hown, Option.none_or]
      split
      · rfl
      · exact Variables.isSome_get?_collected _ k
    · intro hpath name args
      rw [hpath]
      rfl
    · intro hhome c
      rw [hhome, ChangeDirectory.goal]
      rcases ChangeDirectory.destination? c.target (st.valueOf? Environment.homeVariable)
        st.env.currentDir with _ | p
      · rfl
      · rfl

/-- A line starts a program behind a home directory that was set, gone to and taken out again. -/
theorem program_sees_home_behind_unset :
    let sh : Shell := ⟨.standard, Probe.platform⟩
    let process : Variables :=
      ⟨[("HOME".toList, "/h".toList), ("PATH".toList, "/b".toList)]⟩
    let st := sh.start ⟨[(["b".toList], .directory), (["h".toList], .directory),
      (["tool".toList, "b".toList], .file 0o755 (.program 0 []))]⟩ .root process []
    let acts : List Act := [.set "HOME".toList "/b".toList, .line "cd".toList .own,
      .unset "HOME".toList, .set "X".toList "a=b".toList]
    let st' := acts.foldl sh.act st
    let out := sh.runLine "tool env:HOME env:X".toList .own st'
    ∃ i, sh.Starts st' out (.program 0) i ∧ out.2 = .ok 0 ∧ st'.env.currentDir = "/b".toList ∧
      out.1.output .out = "HOME=/h\nX=a=b\n".toList ∧
      Variables.inBlock? i.environ "HOME".toList = process.get? "HOME".toList ∧
      st'.valueOf? "HOME".toList = process.get? "HOME".toList ∧
      Variables.inBlock? i.environ "X".toList = some "a=b".toList := by
  intro sh process st acts st' out
  have hprocess : process.Named := by
    unfold Variables.Named
    decide
  have hdistinct : process.Distinct := by decide
  have hsh : sh.builtins.OfBuiltins := CommandTable.ofBuiltins_standard
  obtain ⟨hall, hsame⟩ := programs_see_variables hsh hprocess
  obtain ⟨hhistory, hinherited⟩ := hall acts st rfl
  obtain ⟨hprogram, hvalue, hseen, hunset, -, -⟩ :=
    hsame .root acts st' (by decide) hhistory hinherited
  let c : ProgramCall :=
    ⟨"tool".toList, "/b/tool".toList, ["env:HOME".toList, "env:X".toList]⟩
  let i : Invocation :=
    ⟨c.name :: c.args, st'.programAssignments, some "/b".toList, []⟩
  let ts : List Token := [.word c.name, .word "env:HOME".toList, .word "env:X".toList]
  let p : Command.Parsed := ⟨⟨c.name :: c.args, none⟩, []⟩
  have hlex : Token.ofLine "tool env:HOME env:X".toList = .ok ts := by decide +kernel
  have hparse : Command.parse ts = .ok (some p) := by decide +kernel
  have hdispatch : sh.dispatch st' p.command.argv = .ok (.program c) :=
    dispatch_of_program? rfl (by decide +kernel)
  have hopen : openStreams p.command.redirection .own (dispatchedState st' ts p (.program c)) =
      (dispatchedState st' ts p (.program c), .ok .own) := rfl
  have hprepare : c.prepare sh.platform (dispatchedState st' ts p (.program c)) .own [] =
      .ok (.program 0, i) := by decide +kernel
  have hstarts : sh.Starts st' out (.program 0) i :=
    .line hlex hparse hdispatch hopen (by decide +kernel) hprepare
  obtain ⟨henviron, hresult⟩ := hprogram _ _ _ hstarts
  have hunreset : ∀ value, .set "HOME".toList value ∉ [Act.set "X".toList "a=b".toList] := by
    intro value hvalue
    exact absurd (Act.set.inj (List.mem_singleton.1 hvalue)).1 (by decide)
  obtain ⟨hshell, -, hblock⟩ := hunset [.set "HOME".toList "/b".toList, .line "cd".toList .own]
    "HOME".toList _ rfl hunreset (by decide)
  refine ⟨i, hstarts, ?_, ?_, ?_, ?_, hshell, ?_⟩
  · rw [hresult]
    decide +kernel
  · decide +kernel
  · decide +kernel
  · rw [henviron, hblock hdistinct]
  · rw [henviron, hseen hdistinct "X".toList (by decide), (hvalue "X".toList (by decide)).1]
    decide +kernel

/-- A process can be started with two values of one name, and a name with an equals sign in it finds
a part of a value: what the shell sees then is not what its programs see. -/
theorem programs_see_other_values :
    let sh : Shell := ⟨.standard, Probe.platform⟩
    let tree : FileTree := ⟨[(["tool".toList], .file 0o755 (.program 0 []))]⟩
    let after := fun process (a : Act) => sh.act (sh.start tree .root ⟨process⟩ []) a
    let twice := after [("A".toList, "1".toList), ("A".toList, "2".toList), ("B".toList, [])]
      (.unset "A".toList)
    let cut := after [("A".toList, "B=1".toList)] (.set "A".toList "2".toList)
    (twice.valueOf? "A".toList = some "1".toList ∧
      (sh.runLine "/tool env:A".toList .own twice).1.output .out = "A=2\n".toList) ∧
    (cut.valueOf? "A=B".toList = some "1".toList ∧
      (sh.runLine "/tool env:A=B".toList .own cut).1.output .out = "A=B unset\n".toList) := by
  decide +kernel

end Shell

end CommandShell
