import CommandShell.Proofs.Shell.Turn

/-!
# What lines leave in the environment

The environment is what one line leaves to the next. Lines that are run one behind the
other are a `Shell.Session`, in which the world around the shell may change between two
lines. Its variables and the names that are built in stay; the current directory is
changed by `cd` alone, and the request to exit by `exit` alone, with the status that it
asks for as its own (`Environment.Through`). Either line has status zero or that status,
unless its streams could not be flushed. A line that only tells about its arguments changes
nothing.

What comes of one line composes to what comes of many (`Environment.Through.append`). The
main statement is `Shell.Session.exists_through`.
-/

namespace CommandShell

theorem Builtin.name_injective {b b' : Builtin} (h : b.name = b'.name) : b = b' := by
  cases b <;> cases b' <;>
    first
      | rfl
      | exact absurd h (by decide)

/-- The command is not carried out for these arguments: they are refused, or ask for help. -/
def Builtin.Declines : Builtin → List Text → Prop
  | .cd, args => ∀ a, ChangeDirectory.grammar.read args ≠ .ok (.run a)
  | .echo, _ => False
  | .exit, args => ∀ e, Exit.ofArguments args ≠ .ok e
  | .pwd, args => ∀ a, PrintDirectory.grammar.read args ≠ .ok (.run a)
  | .type, args => ∀ a, Describe.grammar.read args ≠ .ok (.run a)

/-- The line is one of a built-in command that is not carried out. -/
def Builtin.DeclinesLine (line : Text) : Prop :=
  ∃ (b : Builtin) (args : List Text) (r : Option Redirection),
    Command.IsDenotedBy ⟨b.name :: args, r⟩ line ∧ b.Declines args

/-- The name of the line's command is exactly `cd`. -/
def ChangeDirectory.IsNamedBy (line : Text) : Prop :=
  ∃ (args : List Text) (r : Option Redirection),
    Command.IsDenotedBy ⟨name :: args, r⟩ line

namespace Exit

/-- The name of the line's command is exactly `exit`, with no argument or with one that is
an integer of 32 bits. -/
def IsAskedBy (c : ExitCode) (line : Text) : Prop :=
  ∃ (args : List Text) (r : Option Redirection), Command.IsDenotedBy ⟨name :: args, r⟩ line ∧
    (args = [] ∧ c = 0 ∨ ∃ s, args = [s] ∧ code? s = some c)

theorem of_ofArguments {args : List Text} {e : Exit} (h : ofArguments args = .ok e) :
    args = [] ∧ e.code.getD 0 = 0 ∨ ∃ s, args = [s] ∧ code? s = some (e.code.getD 0) := by
  unfold ofArguments at h
  split at h
  · cases h
    exact .inl ⟨rfl, rfl⟩
  · split at h
    case h_1 s _ n hcode =>
        cases h
        exact .inr ⟨s, rfl, hcode⟩
    · cases h
  · cases h

end Exit

namespace Shell

/-- A line that was run, with its result. Its streams could be flushed when it was started, or
could not. -/
structure Ran where
  line : Text
  flushed : Except IoError Unit
  result : Except LineError ExitCode

/-- The result is a status, or that the streams cannot be flushed. -/
def Ran.Ends (e : Ran) (code : ExitCode) : Prop :=
  e.result = .ok code ∨ ∃ cause, e.flushed = .error cause ∧ e.result = .error (.io cause)

end Shell

/-- What can come of lines that were run. -/
structure Environment.Through (ls : List Shell.Ran) (env env' : Environment) : Prop where
  vars : env'.vars = env.vars
  builtinNames : env'.builtinNames = env.builtinNames
  currentDir : env'.currentDir ≠ env.currentDir →
    ∃ e ∈ ls, ChangeDirectory.IsNamedBy e.line ∧ e.Ends 0
  requestedExit : env'.requestedExit ≠ env.requestedExit →
    ∃ e ∈ ls, ∃ c, Exit.IsAskedBy c e.line ∧ e.Ends c ∧ env'.requestedExit = some c
  requested : env.requestedExit.isSome = true → env'.requestedExit.isSome = true
  declined : (∀ e ∈ ls, Builtin.DeclinesLine e.line) → env' = env

namespace Environment.Through

variable {env env' env'' : Environment} {ls ls' : List Shell.Ran}

theorem of_eq (h : env' = env) (ls : List Shell.Ran) : env.Through ls env' := by
  subst h
  exact ⟨rfl, rfl, fun hne => absurd rfl hne, fun hne => absurd rfl hne, fun hsome => hsome,
    fun _ => rfl⟩

theorem append (h : env.Through ls env') (h' : env'.Through ls' env'') :
    env.Through (ls ++ ls') env'' where
  vars := h'.vars.trans h.vars
  builtinNames := h'.builtinNames.trans h.builtinNames
  currentDir := by
    intro hne
    by_cases hlast : env''.currentDir = env'.currentDir
    · obtain ⟨e, he, hcd⟩ := h.currentDir (hlast ▸ hne)
      exact ⟨e, List.mem_append_left _ he, hcd⟩
    · obtain ⟨e, he, hcd⟩ := h'.currentDir hlast
      exact ⟨e, List.mem_append_right _ he, hcd⟩
  requestedExit := by
    intro hne
    by_cases hlast : env''.requestedExit = env'.requestedExit
    · obtain ⟨e, he, c, hexit, hend, hc⟩ := h.requestedExit (hlast ▸ hne)
      exact ⟨e, List.mem_append_left _ he, c, hexit, hend, hlast.trans hc⟩
    · obtain ⟨e, he, c, hexit, hend, hc⟩ := h'.requestedExit hlast
      exact ⟨e, List.mem_append_right _ he, c, hexit, hend, hc⟩
  requested := fun hsome => h'.requested (h.requested hsome)
  declined := by
    intro hall
    rw [h'.declined fun e he => hall e (List.mem_append_right _ he),
      h.declined fun e he => hall e (List.mem_append_left _ he)]

end Environment.Through

namespace State

/-- A command of a line that is declined turns nothing. -/
theorem Turns.stays_of_declinesLine {st st' : State} {streams : Streams} {c : Command}
    {result : Except LineError ExitCode} (h : st.Turns streams c.argv st' result) {line : Text}
    (hline : c.IsDenotedBy line) (hdeclines : Builtin.DeclinesLine line) : st.Stays st' := by
  obtain ⟨argv, r⟩ := c
  obtain ⟨b, args', r', hline', hargs'⟩ := hdeclines
  obtain ⟨hargv, -⟩ := Command.mk.inj (hline'.eq hline)
  cases h with
  | stays h => exact h
  | moves hargs hgoal hend =>
      obtain ⟨hname, rfl⟩ := List.cons.inj hargv
      obtain rfl : b = .cd := Builtin.name_injective hname
      exact absurd hargs (hargs' _)
  | asks hargs hend =>
      obtain ⟨hname, rfl⟩ := List.cons.inj hargv
      obtain rfl : b = .exit := Builtin.name_injective hname
      exact absurd hargs (hargs' _)

theorem Turns.through {st st' : State} {streams : Streams} {c : Command}
    {result : Except LineError ExitCode} (h : st.Turns streams c.argv st' result) {line : Text}
    (hline : c.IsDenotedBy line) :
    st.env.Through [⟨line, st.flush [streams.out, streams.err], result⟩] st'.env := by
  have hdeclined : (∀ e ∈ [Shell.Ran.mk line (st.flush [streams.out, streams.err]) result],
      Builtin.DeclinesLine e.line) → st'.env = st.env := by
    intro hall
    exact (h.stays_of_declinesLine hline (hall _ List.mem_cons_self)).env
  obtain ⟨argv, r⟩ := c
  cases h with
  | stays h => exact .of_eq h.env _
  | @moves args _ _ _ _ hargs hgoal hend =>
      refine ⟨rfl, rfl, ?_, fun hne => absurd rfl hne, fun hsome => hsome, hdeclined⟩
      intro _
      exact ⟨_, List.mem_cons_self, ⟨args, r, hline⟩, hend⟩
  | @asks args e _ hargs hend =>
      refine ⟨rfl, rfl, fun hne => absurd rfl hne, ?_, fun _ => rfl, hdeclined⟩
      intro _
      exact ⟨_, List.mem_cons_self, _, ⟨args, r, hline, Exit.of_ofArguments hargs⟩, hend, rfl⟩

end State

namespace Shell

/-- Lines that are run one behind the other, with their results. Each starts with the
environment that the one before left, whatever else has changed meanwhile. -/
inductive Session (sh : Shell) : Environment → List Ran → Environment → Prop where
  | nil (env : Environment) : Session sh env [] env
  | cons {line streams st st' flushed result rest env'}
      (hflushed : st.flush [streams.out, streams.err] = flushed)
      (hrun : sh.runLine line streams st = (st', result)) (h : Session sh st'.env rest env') :
      Session sh st.env (⟨line, flushed, result⟩ :: rest) env'

namespace Session

variable {sh : Shell} {env env' : Environment}

theorem exists_of_runLines (sh : Shell) (lines : List (Text × Streams)) (st : State) :
    ∃ ls, ls.map Ran.line = lines.map Prod.fst ∧
      sh.Session st.env ls (sh.runLines lines st).env := by
  induction lines generalizing st with
  | nil => exact ⟨[], rfl, .nil st.env⟩
  | cons l lines ih =>
      obtain ⟨line, streams⟩ := l
      obtain ⟨ls, hls, hsession⟩ := ih (sh.runLine line streams st).1
      refine ⟨_ :: ls, ?_, .cons rfl rfl hsession⟩
      rw [List.map_cons, List.map_cons, hls]

theorem exists_of_append {ls ls' : List Ran} (h : sh.Session env (ls ++ ls') env') :
    ∃ middle, sh.Session env ls middle ∧ sh.Session middle ls' env' := by
  induction ls generalizing env with
  | nil => exact ⟨env, .nil env, h⟩
  | cons e ls ih =>
      cases h with
      | cons hflushed hrun h =>
          obtain ⟨middle, hfirst, hsecond⟩ := ih h
          exact ⟨middle, .cons hflushed hrun hfirst, hsecond⟩

theorem through (hsh : sh.builtins.OfBuiltins) {ls : List Ran} (h : sh.Session env ls env') :
    env.Through ls env' := by
  induction h with
  | nil env => exact .of_eq rfl []
  | @cons line streams st st' flushed result rest env' hflushed hrun _ ih =>
      have hline : st.env.Through [⟨line, flushed, result⟩] st'.env := by
        have hturns := turns_runLine hsh line streams st
        rw [hrun] at hturns
        obtain ⟨c, hdenotes, s, hs, hstandard, hturns⟩ | hstays := hturns
        · rw [← hs.env, ← hflushed, ← State.flush_of_standard_eq hstandard]
          exact hturns.through hdenotes
        · exact .of_eq hstays.env _
      exact hline.append ih

/-- Any lines make a session from any state. In every session of the standard shell each
stretch of lines, be it one line or the whole, leaves the environment but for what `cd`
and `exit` do to it. -/
theorem exists_through (pf : Platform) :
    (∀ (lines : List (Text × Streams)) (st : State), ∃ ls, ls.map Ran.line = lines.map Prod.fst ∧
      Session ⟨.standard, pf⟩ st.env ls (runLines ⟨.standard, pf⟩ lines st).env) ∧
    ∀ env env' before part after,
      Session ⟨.standard, pf⟩ env (before ++ (part ++ after)) env' →
        ∃ env₁ env₂, Session ⟨.standard, pf⟩ env before env₁ ∧
          Session ⟨.standard, pf⟩ env₁ part env₂ ∧ Session ⟨.standard, pf⟩ env₂ after env' ∧
          env₁.Through part env₂ := by
  constructor
  · intro lines st
    exact exists_of_runLines _ lines st
  · intro env env' before part after h
    obtain ⟨env₁, hbefore, hrest⟩ := exists_of_append h
    obtain ⟨env₂, hpart, hafter⟩ := exists_of_append hrest
    exact ⟨env₁, env₂, hbefore, hpart, hafter, through CommandTable.ofBuiltins_standard hpart⟩

/-- A request with a surplus argument is declined, the next one is taken. -/
theorem exists_through_exit :
    let sh : Shell := ⟨.standard, Probe.platform⟩
    let st := sh.start ⟨[(["d".toList], .directory)]⟩ .root ⟨[]⟩ []
    ∃ env₁ env₂, sh.Session st.env [⟨"cd d".toList, .ok (), .ok 0⟩] env₁ ∧
      env₁.Through [⟨"exit 7 x".toList, .ok (), .ok 2⟩, ⟨"exit 3".toList, .ok (), .ok 3⟩] env₂ ∧
      env₂.currentDir = "/d".toList ∧ env₂.requestedExit = some 3 := by
  intro sh st
  -- The states are named, so that each line is run once.
  obtain ⟨s₁, h₁⟩ : ∃ s, (sh.runLine "cd d".toList .own st).1 = s := ⟨_, rfl⟩
  obtain ⟨s₂, h₂⟩ : ∃ s, (sh.runLine "exit 7 x".toList .own s₁).1 = s := ⟨_, rfl⟩
  obtain ⟨s₃, h₃⟩ : ∃ s, (sh.runLine "exit 3".toList .own s₂).1 = s := ⟨_, rfl⟩
  have hsession : sh.Session st.env ([⟨"cd d".toList, .ok (), .ok 0⟩] ++
      ([⟨"exit 7 x".toList, .ok (), .ok 2⟩, ⟨"exit 3".toList, .ok (), .ok 3⟩] ++ [])) s₃.env := by
    refine .cons ?_ (Prod.ext h₁ ?_) (.cons ?_ (Prod.ext h₂ ?_)
      (.cons ?_ (Prod.ext h₃ ?_) (.nil _)))
    all_goals
      subst h₁ h₂ h₃
      decide +kernel
  obtain ⟨env₁, env₂, hbefore, -, hafter, hthrough⟩ :=
    (exists_through Probe.platform).2 _ _ _ _ _ hsession
  cases hafter
  refine ⟨env₁, _, hbefore, hthrough, ?_⟩
  subst h₁ h₂ h₃
  decide +kernel

/-- Behind a text that a full standard output has kept, `cd` and `exit` do what they should and
fail all the same. -/
theorem fails_behind_kept_text :
    let sh : Shell := ⟨.standard, Probe.platform⟩
    let st := sh.start ⟨[(["d".toList], .directory)]⟩ .root ⟨[]⟩ []
      ⟨.refusing .noSpace [], none⟩
    let s₁ := (sh.runLine "echo -n x".toList .own st).1
    let s₂ := (sh.runLine "cd d".toList .own s₁).1
    let s₃ := (sh.runLine "exit 3".toList .own s₂).1
    s₁.env.currentDir = "/".toList ∧
      (sh.runLine "cd d".toList .own s₁).2 = .error (.io (.os .noSpace)) ∧
      s₂.env.currentDir = "/d".toList ∧ s₂.env.requestedExit = none ∧
      (sh.runLine "exit 3".toList .own s₂).2 = .error (.io (.os .noSpace)) ∧
      s₃.env.requestedExit = some 3 := by
  decide +kernel

end Session

end Shell

end CommandShell
