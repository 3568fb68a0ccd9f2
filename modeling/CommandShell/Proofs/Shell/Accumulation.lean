import CommandShell.Probe
import CommandShell.Proofs.FileTree.Reopening
import CommandShell.Proofs.Shell.Diversion

/-!
# Output that accumulates in a file

Lines that write words with `echo` and divert a stream into one file leave in it what the
lines from the last truncating one on have written there; what they divert is lost
nowhere. One line adds its text behind what opening left (`EchoLine.exists_runLine`), and
then the file can be opened again, so the next line adds to it.

The main statement is `Shell.accumulates`.
-/

namespace CommandShell

/-- What the file at an address holds, nothing if it is not there. -/
def State.heldAt (st : State) (a : Address) : Contents :=
  (st.contentsOf (.target (.file a))).getD .empty

theorem State.heldAt_of_node? {st : State} {a : Address} {permissions : Nat} {c : Contents}
    (h : st.tree.node? a = some (.file permissions c)) : st.heldAt a = c := by
  simp only [heldAt, contentsOf, h, Option.getD_some]

/-- Opening it drops that, or keeps it. -/
theorem WriteMode.openedContents_eq (m : WriteMode) (st : State) (a : Address) :
    m.openedContents st.tree a = if m = .truncate then .empty else st.heldAt a := by
  cases m with
  | truncate => rfl
  | append =>
      unfold openedContents State.heldAt State.contentsOf
      dsimp only
      rcases st.tree.node? a with _ | ⟨⟩ | ⟨permissions, c⟩ | target | d <;> rfl

/-- A line that writes words with `echo`, in whatever quoting, and diverts one of its
streams into `f`. -/
structure EchoLine (f : Text) where
  words : List Text
  operator : Operator
  rendering : Rendering
  tokens : rendering.tokens =
    (Echo.name :: words).map .word ++ [.operator operator, .word f]
  plain : words.head? ≠ some Echo.flag

namespace EchoLine

variable {f : Text}

def line (l : EchoLine f) : Text := l.rendering.written

/-- What `echo` writes. -/
def text (l : EchoLine f) : Text := Text.line (Text.join [' '] l.words)

/-- What of it goes to the file. -/
def kept (l : EchoLine f) : Text := if l.operator.stream = .out then l.text else []

/-- What of it goes to the standard output. -/
def shown (l : EchoLine f) : Text := if l.operator.stream = .err then l.text else []

def redirection (l : EchoLine f) : Redirection :=
  ⟨l.operator.stream, l.operator.mode, f, (Echo.name :: l.words).length⟩

def command (l : EchoLine f) : Command := ⟨Echo.name :: l.words, some l.redirection⟩

theorem isDenotedBy_line (l : EchoLine f) : l.command.IsDenotedBy l.line := by
  refine ⟨_, l.rendering.ofLine_written, ?_⟩
  rw [l.tokens]
  exact Command.ofTokens_eq_ok_some_iff.2
    ⟨[], .redirected (List.cons_ne_nil _ _) l.operator f []⟩

/-- The line with single spaces, for words as they are written. -/
def spaced (name : WrittenWord) (ws : List WrittenWord) (o : Operator) (file : WrittenWord)
    (hname : name.value = Echo.name) (hfile : file.value = f)
    (hplain : (ws.map WrittenWord.value).head? ≠ some Echo.flag) : EchoLine f where
  words := ws.map WrittenWord.value
  operator := o
  rendering := .spaced ((name :: ws).map .word ++ .operator o :: .word file :: [])
  tokens := by
    have htokens := Command.map_token_redirected (name :: ws) o file []
    rw [List.map_nil] at htokens
    rw [Rendering.tokens_spaced, htokens, List.map_cons, hname, hfile]
    rfl
  plain := hplain

theorem text_ofArguments (l : EchoLine f) : (Echo.ofArguments l.words).text = l.text := by
  have hdrop : l.words.dropWhile (· = Echo.flag) = l.words := by
    cases hwords : l.words with
    | nil => rfl
    | cons w ws =>
        have hw : w ≠ Echo.flag := by
          have hplain := l.plain
          rw [hwords] at hplain
          exact fun heq => hplain (congrArg some heq)
        exact List.dropWhile_cons_of_neg (by simpa using hw)
  simp only [Echo.text, Echo.ofArguments, hdrop, l.plain, ne_eq, not_false_eq_true, decide_true,
    text, Text.line]
  simp [Echo.pieces]

/-- What the file holds after some lines. -/
def contents : List (EchoLine f) → Contents → Contents
  | [], c => c
  | l :: ls, c => contents ls ((if l.operator.mode = .truncate then .empty else c).append l.kept)

theorem contents_append (ls ls' : List (EchoLine f)) (c : Contents) :
    contents (ls ++ ls') c = contents ls' (contents ls c) := by
  induction ls generalizing c with
  | nil => rfl
  | cons l ls ih => exact ih _

theorem contents_of_forall_append {ls : List (EchoLine f)}
    (h : ∀ l ∈ ls, l.operator.mode = .append) (c : Contents) :
    contents ls c = c.append (ls.flatMap kept) := by
  induction ls generalizing c with
  | nil => exact (c.append_nil).symm
  | cons l ls ih =>
      have hl : l.operator.mode ≠ .truncate := by
        rw [h l List.mem_cons_self]
        decide
      rw [contents, if_neg hl, ih fun l hl => h l (List.mem_cons_of_mem _ hl),
        Contents.append_append, List.flatMap_cons]

/-- The last line that truncates decides from where on the texts stay. -/
theorem contents_of_truncate {front back : List (EchoLine f)} {l : EchoLine f}
    (hl : l.operator.mode = .truncate) (hback : ∀ l ∈ back, l.operator.mode = .append)
    (c : Contents) :
    contents (front ++ l :: back) c = .text ((l :: back).flatMap kept) := by
  rw [contents_append, contents, if_pos hl, contents_of_forall_append hback,
    Contents.append_append, Contents.empty_append, List.flatMap_cons]

end EchoLine

namespace Shell

theorem dispatch_echo (pf : Platform) (st : State) (words : List Text) :
    dispatch ⟨.standard, pf⟩ st (Echo.name :: words) =
      .ok (.builtin Echo.name (Echo.ofArguments words).action) :=
  dispatch_of_builtin? rfl

end Shell

theorem Echo.action_of_taken {streams : Streams} {st : State}
    (htaken : st.refusal? streams.out = none)
    (hflush : .own .out ∈ [streams.out, streams.err] → st.refusal? (.own .out) = none)
    (e : Echo) : e.action streams st = (st.put streams.out e.text, .ok 0) := by
  have hput := (st.alike_put streams.out e.text).toSameSession
  have hsettle := State.flush_of_taken fun h => (hput.refusal?_eq _).trans (hflush h)
  rw [action, Action.ofBody, Action.writeBody, State.print_of_taken htaken]
  change Action.settle _ 0 (st.put streams.out e.text) = _
  rw [Action.settle, hsettle]

/-- The streams are those of the shell, or kept in memory. -/
def Streams.AreOwn (streams : Streams) : Prop := ∀ s, (streams.sink s).keeper = .own s

theorem Streams.AreOwn.keeper_divert_out {streams : Streams} (h : streams.AreOwn) (s : Stream)
    (a : Address) : (streams.divert s (.target (.file a))).out.keeper =
      if s = .out then .target (.file a) else .own .out := by
  cases s with
  | out => rfl
  | err => exact h .out

/-- A diverted stream can always be written and flushed, and so can the other if the standard output
takes what it gets. -/
theorem Streams.AreOwn.taken_divert {streams : Streams} (h : streams.AreOwn) {st : State}
    (htaken : st.refusal? streams.out = none) (s : Stream) (a : Address) :
    st.refusal? (streams.divert s (.target (.file a))).out = none ∧
      (.own .out ∈ [(streams.divert s (.target (.file a))).out,
        (streams.divert s (.target (.file a))).err] → st.refusal? (.own .out) = none) := by
  cases s with
  | out =>
      refine ⟨rfl, ?_⟩
      intro hown
      have herr : Sink.own .out = streams.err := by simpa [divert] using hown
      have hkeeper := h .err
      rw [sink_err, ← herr] at hkeeper
      cases hkeeper
  | err =>
      refine ⟨htaken, ?_⟩
      intro hown
      have hout : Sink.own .out = streams.out := by simpa [divert] using hown
      rw [hout, htaken]

/-- What lines leave, when `f` opens the file at `a`: the file holds `c`, the standard output
has gained a text, and the standard error none. -/
structure State.AfterEcho (st : State) (f : Text) (a : Address) (c : Contents) (shown : Text)
    (st' : State) : Prop extends SameSession st st' where
  opens : Redirection.OpensFile st'.tree st'.workDir st'.env.currentDir f a
  held : st'.heldAt a = c
  out : st'.output .out = st.output .out ++ shown
  err : st'.output .err = st.output .err

theorem Shell.exists_openSink {st : State} {r : Redirection} {a : Address}
    (h : Redirection.OpensFile st.tree st.workDir st.env.currentDir r.filename a) :
    ∃ st', openSink st r = (st', .ok (.target (.file a))) ∧
      st'.tree.Stands st.workDir (Path.join st.env.currentDir r.filename) a := by
  obtain ⟨t, htarget⟩ := h.exists_openTarget r.mode
  refine ⟨State.note { st with tree := t } (.openedTarget (Path.join st.env.currentDir r.filename)
    r.mode), ?_, Redirection.stands_of_openTarget htarget⟩
  rw [openSink, htarget]

namespace EchoLine

variable {f : Text} (l : EchoLine f)

/-- What is diverted gets to the file, and the rest to the standard output. -/
theorem exists_action {streams : Streams} (hown : streams.AreOwn) (a : Address) {st : State}
    (htaken : st.refusal? streams.out = none) :
    ∃ st', (Echo.ofArguments l.words).action
        (streams.divert l.operator.stream (.target (.file a))) st = (st', .ok 0) ∧
      st.Alike st' ∧
      st'.contentsOf (.target (.file a)) =
        (st.contentsOf (.target (.file a))).map (·.append l.kept) ∧
      st'.output .out = st.output .out ++ l.shown ∧ st'.output .err = st.output .err := by
  have hkeeper := hown.keeper_divert_out l.operator.stream a
  obtain ⟨htaken, hflush⟩ := hown.taken_divert htaken l.operator.stream a
  have hcontents := fun sink => State.contentsOf_put st
    (streams.divert l.operator.stream (.target (.file a))).out sink l.text
  rw [hkeeper] at hcontents
  have houtput := fun s => State.output_eq_of_contentsOf (hcontents (.own s))
  refine ⟨_, Echo.action_of_taken htaken hflush _, State.alike_put _ _ _, ?_, ?_, ?_⟩
  all_goals rw [l.text_ofArguments]
  · rw [hcontents, kept]
    cases l.operator.stream <;> simp [Sink.keeper]
  · rw [houtput .out, shown]
    cases l.operator.stream <;> simp [Sink.keeper]
  · rw [houtput .err]
    cases l.operator.stream <;> simp [Sink.keeper]

/-- One line adds its text behind what opening the file leaves. -/
theorem exists_runLine (pf : Platform) {st : State} {a : Address}
    (hopens : Redirection.OpensFile st.tree st.workDir st.env.currentDir f a) {streams : Streams}
    (hown : streams.AreOwn) (htaken : st.refusal? streams.out = none) :
    ∃ st', Shell.runLine ⟨.standard, pf⟩ l.line streams st = (st', .ok 0) ∧
      st'.tree.Stands st'.workDir (Path.join st'.env.currentDir f) a ∧
      st.AfterEcho f a
        ((if l.operator.mode = .truncate then .empty else st.heldAt a).append l.kept) l.shown
          st' := by
  obtain ⟨st₁, hnotes, hrun⟩ :=
    Shell.exists_runLine_eq l.isDenotedBy_line ⟨.standard, pf⟩ streams st
  have hdispatch := Shell.dispatch_echo pf st₁ l.words
  have hs := hnotes.note (.dispatchedBuiltin Echo.name)
  obtain ⟨st₂, hopen, hstands⟩ : ∃ st₂,
      Shell.openSink (st₁.note (.dispatchedBuiltin Echo.name)) l.redirection =
        (st₂, .ok (.target (.file a))) ∧
      st₂.tree.Stands st.workDir (Path.join st.env.currentDir f) a := by
    rw [← hs.workDir, ← hs.env]
    refine Shell.exists_openSink ?_
    rw [hs.tree, hs.workDir, hs.env]
    exact hopens
  obtain ⟨hfile, hother⟩ := Shell.contentsOf_of_openSink hopen
  have hopened := hs.toSameSession.trans (Shell.sameSession_of_openSink hopen)
  obtain ⟨st', haction, halike, hcontents, hout, herr⟩ :=
    l.exists_action hown a ((hopened.refusal?_eq _).trans htaken)
  have hsame := hopened.trans halike.toSameSession
  have hstands' : st'.tree.Stands st'.workDir (Path.join st'.env.currentDir f) a := by
    rw [hsame.workDir, hsame.env]
    exact hstands.of_sameShape halike.tree
  have houtput : ∀ s, st₂.output s = st.output s := by
    intro s
    have hsink := hother (.own s) (by simp)
    rw [hs.contentsOf_eq] at hsink
    exact Contents.text.inj (Option.some.inj hsink)
  refine ⟨st', ?_, hstands', { hsame with
    opens := .of_stands hstands'
    held := ?_
    out := hout.trans (by rw [houtput])
    err := herr.trans (houtput .err) }⟩
  · rw [hrun]
    exact (Shell.runCommand_redirected hdispatch hopen streams).trans haction
  · have hmode := WriteMode.openedContents_eq l.operator.mode
      (st₁.note (.dispatchedBuiltin Echo.name)) a
    rw [State.heldAt, hs.contentsOf_eq] at hmode
    rw [State.heldAt, hcontents, hfile, redirection, hmode]
    rfl

end EchoLine

namespace Shell

variable {f : Text} {a : Address} {streams : Streams}

/-- Lines add up: each of them opens the file that the ones before have left. -/
theorem afterEcho_runLines (pf : Platform) (hown : streams.AreOwn) (ls : List (EchoLine f))
    {st : State} (hopens : Redirection.OpensFile st.tree st.workDir st.env.currentDir f a)
    (htaken : st.refusal? streams.out = none) {st' : State}
    (hst' : runLines ⟨.standard, pf⟩ (ls.map fun l => (l.line, streams)) st = st') :
    results ⟨.standard, pf⟩ (ls.map fun l => (l.line, streams)) st = ls.map (fun _ => .ok 0) ∧
      st.AfterEcho f a (EchoLine.contents ls (st.heldAt a)) (ls.flatMap EchoLine.shown) st' ∧
      (ls ≠ [] → st'.tree.Stands st'.workDir (Path.join st'.env.currentDir f) a) := by
  induction ls generalizing st with
  | nil =>
      subst hst'
      refine ⟨rfl, { State.SameSession.refl st with
        opens := hopens
        held := rfl
        out := (List.append_nil _).symm
        err := rfl }, fun hne => absurd rfl hne⟩
  | cons l ls ih =>
      obtain ⟨st₁, hrun, hstands, hline⟩ := l.exists_runLine pf hopens hown htaken
      rw [List.map_cons, runLines, hrun] at hst'
      obtain ⟨hresults, hlines, hstands'⟩ :=
        ih hline.opens ((hline.refusal?_eq _).trans htaken) hst'
      rw [List.map_cons, List.map_cons, results, hrun]
      refine ⟨congrArg (.ok 0 :: ·) hresults, { hline.toSameSession.trans hlines.toSameSession with
        opens := hlines.opens
        held := ?_
        out := ?_
        err := hlines.err.trans hline.err }, fun _ => ?_⟩
      · rw [hlines.held, hline.held]
        rfl
      · rw [hlines.out, hline.out, List.flatMap_cons, List.append_assoc]
      · by_cases hls : ls = []
        · subst hls
          subst hst'
          exact hstands
        · exact hstands' hls

/-- If `f` opens a regular file, one that is there or that opening makes, and the standard
output takes what it gets, then after any lines that write words with `echo` and divert a
stream into `f`, each of which has returned zero, the file holds what the lines from the last
truncating one on have diverted, or that behind what it held. What was not diverted went to
the standard output. -/
theorem accumulates (pf : Platform) {st st' : State}
    (hopens : Redirection.OpensFile st.tree st.workDir st.env.currentDir f a)
    (hown : streams.AreOwn) (htaken : st.refusal? streams.out = none) (ls : List (EchoLine f))
    {lines : List (Text × Streams)}
    (hlines : ls.map (fun l => (l.line, streams)) = lines)
    (hst' : runLines ⟨.standard, pf⟩ lines st = st') :
    results ⟨.standard, pf⟩ lines st = ls.map (fun _ => .ok 0) ∧
      (∀ permissions c, st.tree.nodeAt? st.workDir (Path.join st.env.currentDir f) =
        .ok (.file permissions c) → st.heldAt a = c) ∧
      (∀ front l back, ls = front ++ l :: back → l.operator.mode = .truncate →
        (∀ l ∈ back, l.operator.mode = .append) →
          st'.heldAt a = .text ((l :: back).flatMap EchoLine.kept)) ∧
      ((∀ l ∈ ls, l.operator.mode = .append) →
        st'.heldAt a = (st.heldAt a).append (ls.flatMap EchoLine.kept)) ∧
      (ls ≠ [] → ∃ permissions, st'.tree.nodeAt? st'.workDir (Path.join st'.env.currentDir f) =
        .ok (.file permissions (st'.heldAt a))) ∧
      st'.output .out = st.output .out ++ ls.flatMap EchoLine.shown ∧
      st'.output .err = st.output .err := by
  subst hlines
  obtain ⟨hresults, hafter, hstands⟩ := afterEcho_runLines pf hown ls hopens htaken hst'
  refine ⟨hresults, ?_, ?_, ?_, ?_, hafter.out, hafter.err⟩
  · intro permissions c hnode
    exact State.heldAt_of_node? (hopens.node?_eq hnode)
  · rintro front l back rfl hl hback
    rw [hafter.held]
    exact EchoLine.contents_of_truncate hl hback _
  · intro happend
    rw [hafter.held]
    exact EchoLine.contents_of_forall_append happend _
  · intro hne
    obtain ⟨permissions, c, hnode, hfound⟩ := (hstands hne).exists_nodeAt?
    refine ⟨permissions, ?_⟩
    rw [hfound, State.heldAt_of_node? hnode]

/-- A line that truncates, one that appends in other quoting, and one that diverts its
errors, of which there are none. -/
theorem accumulates_log :
    let sh : Shell := ⟨.standard, Probe.platform⟩
    let st := sh.start ⟨[(["log".toList], .file 0o644 (.text "old\n".toList))]⟩ .root ⟨[]⟩ []
    let streams : Streams := ⟨.inherited, .memory .out, .memory .err⟩
    ∃ st', sh.runLines [("echo a > log".toList, streams),
        ("echo 'b  c' >> \"log\"".toList, streams),
        ("echo note 2>> log".toList, streams)] st = st' ∧
      st'.heldAt ["log".toList] = .text "a\nb  c\n".toList ∧
      st'.output .out = "note\n".toList ∧ st'.output .err = [] := by
  intro sh st streams
  let echo : WrittenWord := .bare Echo.name (by decide)
    (by simp [Echo.name, Element.IsPlain, Token.isBlank])
  let log : WrittenWord := .bare "log".toList (by decide) (by simp [Element.IsPlain, Token.isBlank])
  let first : EchoLine "log".toList :=
    .spaced echo [.bare ['a'] (by decide) (by simp [Element.IsPlain, Token.isBlank])]
      ⟨none, .truncate⟩ log rfl rfl (by decide)
  let second : EchoLine "log".toList :=
    .spaced echo [⟨[.single "b  c".toList], by simp [Segment.Legal], by decide⟩]
      ⟨none, .append⟩ ⟨[.double "log".toList], by simp [Segment.Legal], by decide⟩ rfl rfl
      (by decide)
  let third : EchoLine "log".toList :=
    .spaced echo [.bare "note".toList (by decide) (by simp [Element.IsPlain, Token.isBlank])]
      ⟨some .err, .append⟩ log rfl rfl (by decide)
  have hopens : Redirection.OpensFile st.tree st.workDir st.env.currentDir "log".toList
      ["log".toList] :=
    ⟨.append, st.tree, by decide +kernel⟩
  have hown : streams.AreOwn := by
    intro s
    cases s with
    | out => rfl
    | err => rfl
  obtain ⟨-, -, htruncate, -, -, hout, herr⟩ :=
    accumulates Probe.platform hopens hown rfl [first, second, third] rfl rfl
  have hback : ∀ l ∈ [second, third], l.operator.mode = .append := by
    intro l hl
    obtain rfl | hl := List.mem_cons.1 hl
    · rfl
    · obtain rfl := List.mem_singleton.1 hl
      rfl
  exact ⟨_, rfl, htruncate [] first [second, third] rfl rfl hback, hout, herr⟩

/-- That nothing is there yet is not enough: nothing can be made below a file. -/
theorem results_ne_below_file :
    let sh : Shell := ⟨.standard, Probe.platform⟩
    let st := sh.start ⟨[(["d".toList], .file 0o644 .empty)]⟩ .root ⟨[]⟩ []
    let streams : Streams := ⟨.inherited, .memory .out, .memory .err⟩
    (∃ l : EchoLine "d/x".toList, l.line = "echo a > d/x".toList) ∧
      st.tree.leadsSomewhere st.workDir (Path.join st.env.currentDir "d/x".toList) = false ∧
      sh.results [("echo a > d/x".toList, streams)] st =
        [.error (.redirect (.createDirectory "/d".toList (.os .alreadyExists)))] := by
  intro sh st streams
  have hecho : ∀ c ∈ Echo.name, Element.IsPlain c := by
    simp [Echo.name, Element.IsPlain, Token.isBlank]
  have hword : ∀ c ∈ ['a'], Element.IsPlain c := by simp [Element.IsPlain, Token.isBlank]
  have hfile : ∀ c ∈ "d/x".toList, Element.IsPlain c := by simp [Element.IsPlain, Token.isBlank]
  have hflag : some ['a'] ≠ some Echo.flag := by decide
  refine ⟨⟨.spaced (.bare Echo.name (by decide) hecho) [.bare ['a'] (by decide) hword]
    ⟨none, .truncate⟩ (.bare "d/x".toList (by decide) hfile) rfl rfl hflag, rfl⟩, ?_, ?_⟩
  · decide +kernel
  · decide +kernel

end Shell

end CommandShell
