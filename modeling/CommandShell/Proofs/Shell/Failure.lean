import CommandShell.Probe
import CommandShell.Shell
import CommandShell.Proofs.Shell.Session

/-!
# What a line leaves when it fails

A line takes up to five stages, and the first that fails gives the error of the line.
`Shell.Fails` says this of the functions of the single stages, with the state that is
left. The kind of the error tells the stage, and how much is left as it was
(`LineError.Keeps`): up to the dispatch, and where the target of the redirection is a
directory, all but the log; where the target cannot be opened, all but the log and new
directories; where the command itself fails, the session, if the streams of the line can be
flushed.

The main statement is `Shell.fails_iff_and_keeps`.
-/

namespace CommandShell

/-- The stages of a line in their order. -/
inductive Stage where
  | lexing
  | parsing
  | dispatching
  | opening
  | running
  deriving DecidableEq, Repr

namespace LineError

/-- The stage that gives errors of this kind. -/
def stage : LineError → Stage
  | .lexing _ => .lexing
  | .parsing _ => .parsing
  | .commandNotFound _ => .dispatching
  | .redirect _ => .opening
  | .spawn _ _ => .running
  | .io _ => .running

/-- What is left as it was by a line that fails with this error. -/
def Keeps (st st' : State) : LineError → Prop
  | .lexing _ => st.OnlyNotes st'
  | .parsing _ => st.OnlyNotes st'
  | .commandNotFound _ => st.OnlyNotes st'
  | .redirect (.isDirectory _) => st.OnlyNotes st'
  | .redirect (.createDirectory _ _) => st.OnlyGrows st'
  | .redirect (.opening _ _) => st.OnlyGrows st'
  | .spawn _ _ => st.SameSession st'
  | .io _ => st.SameSession st'

theorem Keeps.onlyGrows {st st' : State} {e : LineError} (h : e.Keeps st st')
    (hstage : e.stage ≠ .running) : st.OnlyGrows st' := by
  match e, h with
  | .lexing _, h => exact State.OnlyNotes.onlyGrows h
  | .parsing _, h => exact State.OnlyNotes.onlyGrows h
  | .commandNotFound _, h => exact State.OnlyNotes.onlyGrows h
  | .redirect (.isDirectory _), h => exact State.OnlyNotes.onlyGrows h
  | .redirect (.createDirectory _ _), h => exact h
  | .redirect (.opening _ _), h => exact h
  | .spawn _ _, _ => exact absurd rfl hstage
  | .io _, _ => exact absurd rfl hstage

end LineError

/-- The table has standard commands only, under whatever names. -/
def CommandTable.OfBuiltins (t : CommandTable) : Prop :=
  ∀ e ∈ t.handlers, ∃ b : Builtin, e.2 = b.handler

namespace CommandTable

theorem OfBuiltins.insert {t : CommandTable} (h : t.OfBuiltins) (name : Text) (b : Builtin) :
    (t.insert name b.handler).OfBuiltins := by
  intro e he
  obtain rfl | he := List.mem_cons.1 he
  · exact ⟨b, rfl⟩
  · exact h e (List.mem_filter.1 he).1

theorem ofBuiltins_standard : standard.OfBuiltins := by
  have hempty : empty.OfBuiltins := by
    intro e he
    cases he
  exact ((((hempty.insert _ .cd).insert _ .echo).insert _ .exit).insert _ .pwd).insert _ .type

end CommandTable

namespace Shell

/-- The streams of a command, with the target of its redirection if it has one. -/
def openStreams (r : Option Redirection) (streams : Streams) (st : State) :
    State × Except TargetError Streams :=
  match r with
  | none => (st, .ok streams)
  | some r =>
    match openSink st r with
    | (st', .error e) => (st', .error e)
    | (st', .ok sink) => (st', .ok (streams.divert r.stream sink))

/-- The files that a redirection leaves open: the one behind the stream that it diverts. -/
def held (r : Option Redirection) (streams : Streams) : List Address :=
  match r with
  | none => []
  | some r => (streams.sink r.stream).file?.toList

/-- The state with the log of the first three stages. -/
def dispatchedState (st : State) (ts : List Token) (p : Command.Parsed) (d : Dispatched) : State :=
  (noteIgnored (st.note (.tokenized ts)) p.ignored).note d.event

/-- A stage is the first that fails on a line, and leaves a state and an error. Each stage
is given what the ones before it made. -/
inductive Fails (sh : Shell) (line : Text) (streams : Streams) (st : State) :
    Stage → State → LineError → Prop where
  | lexing {e} (hlex : Token.ofLine line = .error e) :
      Fails sh line streams st .lexing st (.lexing e)
  | parsing {ts e} (hlex : Token.ofLine line = .ok ts) (hparse : Command.parse ts = .error e) :
      Fails sh line streams st .parsing (st.note (.tokenized ts)) (.parsing e)
  | dispatching {ts p e} (hlex : Token.ofLine line = .ok ts)
      (hparse : Command.parse ts = .ok (some p))
      (hdispatch : sh.dispatch st p.command.argv = .error e) :
      Fails sh line streams st .dispatching (noteIgnored (st.note (.tokenized ts)) p.ignored) e
  | opening {ts p d st' e} (hlex : Token.ofLine line = .ok ts)
      (hparse : Command.parse ts = .ok (some p))
      (hdispatch : sh.dispatch st p.command.argv = .ok d)
      (hopen : openStreams p.command.redirection streams (dispatchedState st ts p d) =
        (st', .error e)) :
      Fails sh line streams st .opening st' (.redirect e)
  | running {ts p d st' streams' st'' e} (hlex : Token.ofLine line = .ok ts)
      (hparse : Command.parse ts = .ok (some p))
      (hdispatch : sh.dispatch st p.command.argv = .ok d)
      (hopen : openStreams p.command.redirection streams (dispatchedState st ts p d) =
        (st', .ok streams'))
      (hrun : d.runHolding sh.platform (held p.command.redirection streams) streams' st' =
        (st'', .error e)) :
      Fails sh line streams st .running st'' e

theorem runRedirected_eq (sh : Shell) (d : Dispatched) (r : Option Redirection)
    (streams : Streams) (st : State) :
    sh.runRedirected d r streams st =
      match openStreams r streams st with
      | (st', .error e) => (st', .error (.redirect e))
      | (st', .ok streams') => d.runHolding sh.platform (held r streams) streams' st' := by
  cases r with
  | none => rfl
  | some r =>
      rw [runRedirected, openStreams]
      rcases openSink st r with ⟨st', e | sink⟩
      · rfl
      · rfl

/-- The log is not looked at. -/
theorem dispatch_note (sh : Shell) (st : State) (e : Event) (argv : List Text) :
    sh.dispatch (st.note e) argv = sh.dispatch st argv := by
  cases argv with
  | nil => rfl
  | cons name args => rfl

theorem dispatch_noteIgnored (sh : Shell) (st : State) (words argv : List Text) :
    sh.dispatch (noteIgnored st words) argv = sh.dispatch st argv := by
  unfold noteIgnored
  split
  · rfl
  · exact dispatch_note sh st _ argv

theorem onlyNotes_noteIgnored {st st' : State} (h : st.OnlyNotes st') (words : List Text) :
    st.OnlyNotes (noteIgnored st' words) := by
  unfold noteIgnored
  split
  · exact h
  · exact h.note _

theorem onlyNotes_dispatchedState (st : State) (ts : List Token) (p : Command.Parsed)
    (d : Dispatched) : st.OnlyNotes (dispatchedState st ts p d) :=
  (onlyNotes_noteIgnored ((State.OnlyNotes.refl st).note _) _).note _

theorem runLine_of_parse {line : Text} {ts : List Token} {p : Command.Parsed}
    (hlex : Token.ofLine line = .ok ts) (hparse : Command.parse ts = .ok (some p)) (sh : Shell)
    (streams : Streams) (st : State) :
    sh.runLine line streams st =
      match sh.dispatch st p.command.argv with
      | .error e => (noteIgnored (st.note (.tokenized ts)) p.ignored, .error e)
      | .ok d => sh.runRedirected d p.command.redirection streams (dispatchedState st ts p d) := by
  simp only [runLine, hlex, runTokens, hparse, runCommand, dispatch_noteIgnored, dispatch_note]
  rfl

theorem runLine_eq_error_iff (sh : Shell) (line : Text) (streams : Streams) (st st' : State)
    (e : LineError) :
    sh.runLine line streams st = (st', .error e) ↔ ∃ s, sh.Fails line streams st s st' e := by
  constructor
  · intro h
    cases hlex : Token.ofLine line with
    | error e' =>
        rw [runLine_of_lexError hlex] at h
        cases h
        exact ⟨_, .lexing hlex⟩
    | ok ts =>
        rcases hparse : Command.parse ts with e' | _ | p
        · rw [runLine_of_parseError hlex hparse] at h
          cases h
          exact ⟨_, .parsing hlex hparse⟩
        · simp only [runLine, hlex, runTokens, hparse] at h
          cases h
        rw [runLine_of_parse hlex hparse] at h
        split at h
        case h_1 hdispatch =>
            cases h
            exact ⟨_, .dispatching hlex hparse hdispatch⟩
        case h_2 d hdispatch =>
            rw [runRedirected_eq] at h
            split at h
            case h_1 hopen =>
                cases h
                exact ⟨_, .opening hlex hparse hdispatch hopen⟩
            case h_2 hopen =>
                exact ⟨_, .running hlex hparse hdispatch hopen h⟩
  · rintro ⟨s, h⟩
    cases h with
    | lexing hlex => exact runLine_of_lexError hlex sh streams st
    | parsing hlex hparse => exact runLine_of_parseError hlex hparse sh streams st
    | dispatching hlex hparse hdispatch => rw [runLine_of_parse hlex hparse, hdispatch]
    | opening hlex hparse hdispatch hopen =>
        rw [runLine_of_parse hlex hparse, hdispatch]
        dsimp only
        rw [runRedirected_eq, hopen]
    | running hlex hparse hdispatch hopen hrun =>
        rw [runLine_of_parse hlex hparse, hdispatch]
        dsimp only
        rw [runRedirected_eq, hopen]
        exact hrun

theorem exists_of_dispatch_error {sh : Shell} {st : State} {argv : List Text} {e : LineError}
    (h : sh.dispatch st argv = .error e) : ∃ name, e = .commandNotFound name := by
  unfold dispatch at h
  split at h
  · cases h
    exact ⟨_, rfl⟩
  split at h
  · cases h
  split at h
  · cases h
  · cases h
    exact ⟨_, rfl⟩

/-- A standard command runs under its own name only. -/
theorem exists_of_builtin? {sh : Shell} (hsh : sh.builtins.OfBuiltins) {env : Environment}
    {name : Text} {args : List Text} {action : Action}
    (h : sh.builtin? env name args = some action) :
    ∃ b : Builtin, name = b.name ∧ action = b.action args := by
  unfold builtin? at h
  split at h
  · cases h
  case h_2 handler hget =>
      obtain ⟨entry, hfind, rfl⟩ := Option.map_eq_some_iff.1 hget
      obtain ⟨b, hb⟩ := hsh entry (List.mem_of_find?_eq_some hfind)
      rw [hb, Builtin.handler] at h
      split at h
      case isTrue hname =>
          cases h
          exact ⟨b, hname, rfl⟩
      · cases h

theorem failsInPlace_of_builtin? {sh : Shell} (hsh : sh.builtins.OfBuiltins) {env : Environment}
    {name : Text} {args : List Text} {action : Action}
    (h : sh.builtin? env name args = some action) : action.FailsInPlace := by
  obtain ⟨b, -, rfl⟩ := exists_of_builtin? hsh h
  exact Builtin.failsInPlace_action b args

/-- A command that fails leaves the session, unless its streams could not be flushed. -/
theorem sameSession_or_flush_of_run_error {sh : Shell} (hsh : sh.builtins.OfBuiltins) {st : State}
    {argv : List Text} {d : Dispatched} (h : sh.dispatch st argv = .ok d) {held : List Address}
    {streams : Streams} {st' st'' : State} {e : LineError}
    (hrun : d.runHolding sh.platform held streams st' = (st'', .error e)) :
    (st'.SameSession st'' ∧ ((∃ cause, e = .io cause) ∨ ∃ name cause, e = .spawn name cause)) ∨
      ∃ cause, e = .io cause ∧ st'.flush [streams.out, streams.err] = .error cause := by
  unfold dispatch at h
  split at h
  · cases h
  split at h
  case h_1 hbuiltin =>
      cases h
      obtain ⟨cause, he, hsame | hflush⟩ := failsInPlace_of_builtin? hsh hbuiltin hrun
      · exact .inl ⟨hsame, .inl ⟨cause, he⟩⟩
      · exact .inr ⟨cause, he, hflush⟩
  case h_2 =>
      split at h
      · cases h
        obtain ⟨rfl, hflush | ⟨cause, he⟩⟩ := ProgramCall.run_error hrun
        · exact .inr hflush
        · exact .inl ⟨.refl _, .inr ⟨_, cause, he⟩⟩
      · cases h

theorem keeps_of_openSink_error {st st' : State} {r : Redirection} {e : TargetError}
    (h : openSink st r = (st', .error e)) : LineError.Keeps st st' (.redirect e) := by
  unfold openSink at h
  split at h
  case h_1 tree _ hopen =>
      cases h
      have hgrows : st.OnlyGrows { st with tree := tree } :=
        { State.OnlyNotes.refl st with tree := Redirection.addsDirectories_of_openTarget hopen }
      cases e with
      | isDirectory p =>
          exact { hgrows with tree := Redirection.eq_of_openTarget_isDirectory hopen }
      | createDirectory p cause => exact hgrows
      | opening p cause => exact hgrows
  case h_2 => cases h

theorem sameSession_of_openSink {st st' : State} {r : Redirection} {res : Except TargetError Sink}
    (h : openSink st r = (st', res)) : st.SameSession st' := by
  unfold openSink at h
  split at h
  · cases h
    exact ⟨rfl, rfl, rfl, rfl, fun _ => rfl⟩
  · cases h
    exact ⟨rfl, rfl, rfl, rfl, fun _ => rfl⟩

theorem keeps_of_openStreams_error {r : Option Redirection} {streams : Streams} {st st' : State}
    {e : TargetError} (h : openStreams r streams st = (st', .error e)) :
    LineError.Keeps st st' (.redirect e) := by
  unfold openStreams at h
  split at h
  · cases h
  split at h
  case h_1 hopen =>
      cases h
      exact keeps_of_openSink_error hopen
  case h_2 => cases h

theorem sameSession_of_openStreams {r : Option Redirection} {streams streams' : Streams}
    {st st' : State} (h : openStreams r streams st = (st', .ok streams')) :
    st.SameSession st' := by
  unfold openStreams at h
  split at h
  · cases h
    exact .refl _
  split at h
  case h_1 => cases h
  case h_2 hopen =>
      cases h
      exact sameSession_of_openSink hopen

theorem exists_target_of_openSink {st st' : State} {r : Redirection} {sink : Sink}
    (h : openSink st r = (st', .ok sink)) :
    (∃ w, sink = .target w) ∧ st'.standard = st.standard := by
  unfold openSink at h
  split at h
  · cases h
  · cases h
    exact ⟨⟨_, rfl⟩, rfl⟩

theorem flush_error_of_openStreams {r : Option Redirection} {streams streams' : Streams}
    {st st' : State} (h : openStreams r streams st = (st', .ok streams')) {e : IoError}
    (hflush : st'.flush [streams'.out, streams'.err] = .error e) :
    st.flush [streams.out, streams.err] = .error e := by
  cases r with
  | none =>
      cases h
      exact hflush
  | some r =>
      rw [openStreams] at h
      split at h
      case h_1 => cases h
      case h_2 hopen =>
          cases h
          obtain ⟨⟨w, rfl⟩, hstandard⟩ := exists_target_of_openSink hopen
          rw [State.flush_of_standard_eq hstandard] at hflush
          exact State.flush_error_of_divert hflush

/-- What an attempt to open leaves, seen from before the notes on the first stages. -/
theorem keeps_of_onlyNotes {st st' st'' : State} {e : TargetError} (h : st.OnlyNotes st')
    (h' : LineError.Keeps st' st'' (.redirect e)) : LineError.Keeps st st'' (.redirect e) := by
  cases e with
  | isDirectory p => exact h.trans h'
  | createDirectory p cause => exact h.onlyGrows.trans h'
  | opening p cause => exact h.onlyGrows.trans h'

theorem Fails.stage_eq_and_keeps {sh : Shell} (hsh : sh.builtins.OfBuiltins) {line : Text}
    {streams : Streams} {st st' : State} {s : Stage} {e : LineError}
    (h : sh.Fails line streams st s st' e) :
    s = e.stage ∧
      (e.Keeps st st' ∨
        ∃ cause, e = .io cause ∧ st.flush [streams.out, streams.err] = .error cause) := by
  cases h with
  | lexing => exact ⟨rfl, .inl (.refl st)⟩
  | parsing => exact ⟨rfl, .inl ((State.OnlyNotes.refl st).note _)⟩
  | dispatching hlex hparse hdispatch =>
      obtain ⟨name, rfl⟩ := exists_of_dispatch_error hdispatch
      exact ⟨rfl, .inl (onlyNotes_noteIgnored ((State.OnlyNotes.refl st).note _) _)⟩
  | opening hlex hparse hdispatch hopen =>
      refine ⟨rfl, .inl (keeps_of_onlyNotes ?_ (keeps_of_openStreams_error hopen))⟩
      exact onlyNotes_dispatchedState _ _ _ _
  | @running ts p d _ _ _ _ hlex hparse hdispatch hopen hrun =>
      have hnotes := onlyNotes_dispatchedState st ts p d
      obtain ⟨hsame, hcause⟩ | ⟨cause, rfl, hflush⟩ :=
        sameSession_or_flush_of_run_error hsh hdispatch hrun
      · -- An opened target has changed the tree, but not the session.
        have hopened := hnotes.toSameSession.trans (sameSession_of_openStreams hopen)
        have hkept := hopened.trans hsame
        obtain ⟨cause, rfl⟩ | ⟨name, cause, rfl⟩ := hcause
        · exact ⟨rfl, .inl hkept⟩
        · exact ⟨rfl, .inl hkept⟩
      · have hgiven := flush_error_of_openStreams hopen hflush
        rw [State.flush_of_standard_eq hnotes.standard] at hgiven
        exact ⟨rfl, .inr ⟨cause, rfl, hgiven⟩⟩

/-- A line fails exactly with the error of its first stage that fails. If only standard
commands are built in, the error tells the stage and what is left as it was; before the
run that includes what each sink holds. (Where the given streams can be flushed: else a command
may fail behind what it has done.) -/
theorem fails_iff_and_keeps (sh : Shell) (line : Text) (streams : Streams) (st : State) :
    (∀ st' e, sh.runLine line streams st = (st', .error e) ↔
      ∃ s, sh.Fails line streams st s st' e) ∧
    (sh.builtins.OfBuiltins → ∀ s st' e, sh.Fails line streams st s st' e →
      s = e.stage ∧
        (e.Keeps st st' ∨
          ∃ cause, e = .io cause ∧ st.flush [streams.out, streams.err] = .error cause) ∧
        (s ≠ .running → ∀ sink, st'.contentsOf sink = st.contentsOf sink)) := by
  constructor
  · intro st' e
    exact runLine_eq_error_iff sh line streams st st' e
  · intro hsh s st' e h
    obtain ⟨rfl, hkeeps⟩ := h.stage_eq_and_keeps hsh
    refine ⟨rfl, hkeeps, ?_⟩
    intro hstage sink
    obtain hkeeps | ⟨cause, rfl, -⟩ := hkeeps
    · exact (hkeeps.onlyGrows hstage).contentsOf_eq sink
    · exact absurd rfl hstage

/-- A request to exit whose redirection leads through a file: the shell stays. -/
theorem keeps_of_target_below_file :
    let sh : Shell := ⟨.standard, Probe.platform⟩
    let st := sh.start ⟨[(["f".toList], .file 0o644 .empty)]⟩ .root ⟨[]⟩ []
    ∃ st' e, sh.runLine "exit 3 > f/x".toList .own st = (st', .error e) ∧
      e = .redirect (.createDirectory "/f".toList (.os .alreadyExists)) ∧
      st'.env.requestedExit = none ∧ e.Keeps st st' := by
  intro sh st
  have hres : (sh.runLine "exit 3 > f/x".toList .own st).2 =
      .error (.redirect (.createDirectory "/f".toList (.os .alreadyExists))) := by
    decide +kernel
  generalize hrun : sh.runLine "exit 3 > f/x".toList .own st = r at hres
  obtain ⟨st', res⟩ := r
  obtain rfl : res = _ := hres
  obtain ⟨s, hfails⟩ := ((fails_iff_and_keeps sh _ .own st).1 _ _).1 hrun
  obtain ⟨-, hkeeps | ⟨cause, hio, -⟩, -⟩ := (fails_iff_and_keeps sh _ .own st).2
    CommandTable.ofBuiltins_standard _ _ _ hfails
  case inr => cases hio
  have henv := (hkeeps.onlyGrows nofun).env
  refine ⟨st', _, rfl, rfl, ?_, hkeeps⟩
  rw [henv]
  rfl

end Shell

end CommandShell
