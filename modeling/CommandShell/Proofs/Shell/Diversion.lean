import CommandShell.Proofs.FileTree.Opening
import CommandShell.Proofs.Program.Run
import CommandShell.Proofs.Shell.Impartial
import CommandShell.Proofs.Shell.Lines

/-!
# A redirection only diverts

A command writes the same with a redirection as without one, where the target is open
but nothing leads to it. So the two runs end with the same result and the same session;
what the one writes to the diverted stream is what the target gains in the other; and
all else that is written stays where it was (`Shell.exists_writing_diverted`).

There are two ways in which the target and the stream that it stands for do matter. A
program is not started while it is open for writing itself (`Dispatched.Executes`), and the
stream can refuse what the target takes, such as a full device or a pipe without a reader.
-/

namespace CommandShell

namespace Dispatched

/-- What the command can reach of a sink. -/
def reach : Dispatched → Sink → Sink
  | .builtin _ _ => id
  | .program _ => Sink.forProgram

/-- The file is executed when the command starts: while it is open for writing, the start
is refused as busy. -/
def Executes (pf : Platform) (st : State) (a : Address) : Dispatched → Prop
  | .builtin _ _ => False
  | .program c => c.startIn pf st [a] = .error (.os .fileBusy)

theorem keeper_reach_eq_iff (d : Dispatched) {sink : Sink} {a : Address} :
    (d.reach sink).keeper = .target (.file a) ↔ sink = .target (.file a) := by
  cases d <;> cases sink <;> simp [reach, Sink.forProgram, Sink.keeper]

/-- The start of the command is the same while some files are open for writing as while
others are. -/
def StartsAlike (pf : Platform) (st : State) (busy busy' : List Address) (d : Dispatched) :
    Prop :=
  ∀ c, d = .program c → c.startIn pf st busy' = c.startIn pf st busy

theorem exists_writing_run {d : Dispatched}
    (hd : ∀ name action, d = .builtin name action → Impartial action) (pf : Platform)
    (streams : Streams) (st : State) :
    ∃ w : Writing, ∀ held streams' st', streams.Alike st streams' → st.OnlyNotes st' →
      d.StartsAlike pf st streams.files (streams'.files ++ held) →
        (d.runHolding pf held streams' st').2 = (d.run pf streams st).2 ∧
          (d.run pf streams st).1.Alike (d.runHolding pf held streams' st').1 ∧
          st'.Receives (d.runHolding pf held streams' st').1 (streams'.map d.reach) w := by
  cases d with
  | builtin name action =>
      obtain ⟨-, w, hw⟩ := hd name action rfl streams st
      refine ⟨w, ?_⟩
      intro _ streams' st' hstreams hst _
      exact hw streams' st' hstreams hst.alike
  | program c =>
      obtain ⟨w, hw⟩ := c.exists_writing_run pf [] streams st
      refine ⟨w, ?_⟩
      intro held streams' st' hstreams hst hstart
      refine hw held streams' st' hstreams hst ?_
      rw [List.append_nil]
      exact hstart c rfl

section

variable (d : Dispatched) {streams : Streams} {s : Stream} {a : Address}

/-- The target gets what is written to the diverted stream. -/
theorem textFor_divert_target (h : a ∉ streams.files) (w : Writing) :
    ((streams.divert s (.target (.file a))).map d.reach).textFor w (.target (.file a)) =
      w.textTo s := by
  have hsink : ∀ s', streams.sink s' ≠ .target (.file a) := by
    intro s' hs'
    exact h (Streams.mem_files_iff.2 ⟨s', by rw [hs']; rfl⟩)
  have htarget : (Sink.target (.file a)).keeper = .target (.file a) := rfl
  unfold Streams.textFor Writing.textTo
  congr 1
  funext e
  rw [Streams.sink_map, Streams.sink_divert, htarget]
  by_cases he : e.1 = s
  · rw [if_pos he, if_pos he, if_pos (d.keeper_reach_eq_iff.2 rfl)]
  · rw [if_neg he, if_neg he, if_neg (fun hk => hsink e.1 (d.keeper_reach_eq_iff.1 hk))]

/-- Any other sink gets what is written to the other stream, as before. -/
theorem textFor_divert_of_ne {sink : Sink} (h : sink ≠ .target (.file a)) (w : Writing) :
    ((streams.divert s (.target (.file a))).map d.reach).textFor w sink =
      (streams.map d.reach).textFor (w.without s) sink := by
  have htarget : (d.reach (.target (.file a))).keeper = .target (.file a) :=
    d.keeper_reach_eq_iff.2 rfl
  have hsink : ¬ (.target (.file a) : Sink) = sink.keeper := by
    intro hk
    cases sink <;> simp_all [Sink.keeper]
  induction w with
  | nil => rfl
  | cons e w ih =>
      rw [Streams.textFor_cons, ih, Streams.sink_map, Streams.sink_divert]
      by_cases he : e.1 = s
      · rw [if_pos he, htarget, if_neg hsink, List.nil_append, Writing.without_cons_of_eq he]
      · rw [if_neg he, Writing.without_cons_of_ne he, Streams.textFor_cons, Streams.sink_map]

end

end Dispatched

namespace Streams

theorem alike_divert {st : State} {streams : Streams} {s : Stream} {a : Address}
    (h : st.refusal? (streams.sink s) = none) :
    streams.Alike st (streams.divert s (.target (.file a))) := by
  refine ⟨input_divert _ _ _, ?_⟩
  intro s'
  rw [sink_divert]
  by_cases hs : s' = s
  · rw [if_pos hs, hs]
    exact .inr ⟨h, rfl⟩
  · rw [if_neg hs]
    exact .inl rfl

end Streams

namespace Shell

theorem runCommand_plain {sh : Shell} {st : State} {argv : List Text} {d : Dispatched}
    (h : sh.dispatch st argv = .ok d) (streams : Streams) :
    sh.runCommand ⟨argv, none⟩ streams st = d.run sh.platform streams (st.note d.event) := by
  simp only [runCommand, h, runRedirected]

theorem runCommand_redirected {sh : Shell} {st st' : State} {argv : List Text} {d : Dispatched}
    (h : sh.dispatch st argv = .ok d) {r : Redirection} {sink : Sink}
    (hopen : openSink (st.note d.event) r = (st', .ok sink)) (streams : Streams) :
    sh.runCommand ⟨argv, some r⟩ streams st =
      d.runHolding sh.platform (streams.sink r.stream).file?.toList
        (streams.divert r.stream sink) st' := by
  simp only [runCommand, h, runRedirected, hopen]

/-- Opening a target leaves what is built in under a name. -/
theorem dispatch_builtin_of_openSink {sh : Shell} {st st' : State} {r : Redirection}
    {res : Except TargetError Sink} (hopen : openSink st r = (st', res)) {argv : List Text}
    {name : Text} {action : Action} (h : sh.dispatch st argv = .ok (.builtin name action)) :
    sh.dispatch st' argv = .ok (.builtin name action) := by
  obtain ⟨name', args, rfl, ⟨action', hd, hbuiltin⟩ | ⟨c, hd, _⟩⟩ := dispatch_cases h
  · cases hd
    rw [← (sameSession_of_openSink hopen).env] at hbuiltin
    exact dispatch_of_builtin? hbuiltin
  · cases hd

theorem contentsOf_of_openSink {st st' : State} {r : Redirection} {a : Address}
    (hopen : openSink st r = (st', .ok (.target (.file a)))) :
    st'.contentsOf (.target (.file a)) = some (r.mode.openedContents st.tree a) ∧
      ∀ sink, sink ≠ .target (.file a) → st'.contentsOf sink = st.contentsOf sink := by
  unfold openSink at hopen
  split at hopen
  · cases hopen
  case h_2 tree w htarget =>
      cases hopen
      have hopens := Redirection.opens_of_openTarget htarget
      obtain ⟨permissions, hfile⟩ := hopens.after
      constructor
      · simp only [State.contentsOf, State.note, hfile]
      · intro sink hsink
        rcases sink with s | s | (b | d) | cause
        · exact congrArg (some ∘ Contents.text) (State.output_note _ _ s)
        · exact congrArg (some ∘ Contents.text) (State.output_note _ _ s)
        · have hb : b ≠ a := fun hb => hsink (hb ▸ rfl)
          obtain heq | ⟨hnone, hdir⟩ := hopens.elsewhere b hb
          · simp only [State.contentsOf, State.note, heq]
          · simp only [State.contentsOf, State.note, hnone, hdir]
        · rfl
        · rfl

theorem impartial_of_dispatch {sh : Shell} (hsh : sh.builtins.OfBuiltins) {st : State}
    {argv : List Text} {name : Text} {action : Action}
    (h : sh.dispatch st argv = .ok (.builtin name action)) : Impartial action := by
  obtain ⟨name', args, rfl, ⟨action', hd, hbuiltin⟩ | ⟨c, hd, _⟩⟩ := dispatch_cases h
  · cases hd
    obtain ⟨b, -, rfl⟩ := exists_of_builtin? hsh hbuiltin
    exact b.impartial_action args
  · cases hd

/-- A redirection that opens a regular file only diverts: the command writes the same
texts, and ends with the same result and session, as it does without the redirection
where the target is open. The target gains what is written to the diverted stream, behind
what opening left of its contents, and no other sink gains it. -/
theorem exists_writing_diverted (pf : Platform) {st st' : State} {r : Redirection} {a : Address}
    (hopen : openSink st r = (st', .ok (.target (.file a)))) {streams : Streams}
    (hfiles : a ∉ streams.files) (htakes : st.refusal? (streams.sink r.stream) = none)
    {argv : List Text} {d : Dispatched} (hd : dispatch ⟨.standard, pf⟩ st argv = .ok d)
    (hd' : ∀ c, d = .program c → dispatch ⟨.standard, pf⟩ st' argv = .ok d)
    (hidle : ¬ d.Executes pf st' a) :
    ∃ written : Writing,
      (∀ streams' plain, streams.Alike st' streams' →
        d.StartsAlike pf st' streams.files streams'.files →
          Runs ⟨.standard, pf⟩ ⟨argv, none⟩ streams' st' plain →
            st'.Receives plain.1 (streams'.map d.reach) written) ∧
      ∀ plain diverted, Runs ⟨.standard, pf⟩ ⟨argv, none⟩ streams st' plain →
        Runs ⟨.standard, pf⟩ ⟨argv, some r⟩ streams st diverted →
          diverted.2 = plain.2 ∧ plain.1.Alike diverted.1 ∧
          diverted.1.contentsOf (.target (.file a)) =
            some ((r.mode.openedContents st.tree a).append (written.textTo r.stream)) ∧
          ∀ sink, sink ≠ .target (.file a) → diverted.1.contentsOf sink =
            (st.contentsOf sink).map
              (·.append ((streams.map d.reach).textFor (written.without r.stream) sink)) := by
  -- A built-in command is dispatched alike in both states.
  have hdispatch : dispatch ⟨.standard, pf⟩ st' argv = .ok d := by
    cases d with
    | builtin name action => exact dispatch_builtin_of_openSink hopen hd
    | program c => exact hd' c rfl
  have himpartial : ∀ name action, d = .builtin name action → Impartial action := by
    rintro name action rfl
    exact impartial_of_dispatch CommandTable.ofBuiltins_standard hd
  obtain ⟨written, hwritten⟩ := Dispatched.exists_writing_run himpartial pf streams st'
  have hplain : ∀ streams' plain, streams.Alike st' streams' →
      d.StartsAlike pf st' streams.files streams'.files →
        Runs ⟨.standard, pf⟩ ⟨argv, none⟩ streams' st' plain →
          plain.2 = (d.run pf streams st').2 ∧ (d.run pf streams st').1.Alike plain.1 ∧
            st'.Receives plain.1 (streams'.map d.reach) written := by
    intro streams' plain hstreams hstart hrun
    obtain ⟨s, hs, rfl⟩ := hrun.exists_eq
    rw [runCommand_plain ((dispatch_of_onlyNotes hs _ argv).trans hdispatch)]
    obtain ⟨hresult, halike, hreceives⟩ := hwritten [] streams' (s.note d.event) hstreams
      (hs.note _) (by rwa [List.append_nil])
    refine ⟨hresult, halike, ?_⟩
    intro sink
    refine (hreceives sink).trans ?_
    rw [(hs.note _).contentsOf_eq]
  refine ⟨written, fun streams' plain hstreams hstart hrun =>
    (hplain streams' plain hstreams hstart hrun).2.2, ?_⟩
  intro plain diverted hrun hrun'
  obtain ⟨hresult, halike, -⟩ := hplain streams plain (.refl _ _) (fun _ _ => rfl) hrun
  obtain ⟨s, hs, rfl⟩ := hrun'.exists_eq
  obtain ⟨s', hopen', hs'⟩ := openSink_of_onlyNotes (hs.note d.event) hopen
  rw [runCommand_redirected ((dispatch_of_onlyNotes hs _ argv).trans hd) hopen']
  rw [← (sameSession_of_openSink hopen).refusal?_eq] at htakes
  obtain ⟨hresult', halike', hreceives⟩ :=
    hwritten (streams.sink r.stream).file?.toList _ s' (Streams.alike_divert htakes) hs' (by
      rintro c rfl
      refine ProgramCall.startIn_divert ?_
      rintro b hb
      obtain rfl : a = b := Option.some.inj hb
      exact hidle)
  obtain ⟨htarget, hother⟩ := contentsOf_of_openSink hopen
  refine ⟨hresult'.trans hresult.symm, halike.symm.trans halike', ?_, ?_⟩
  · rw [hreceives, hs'.contentsOf_eq, htarget, d.textFor_divert_target hfiles]
    rfl
  · intro sink hsink
    rw [hreceives, hs'.contentsOf_eq, hother sink hsink, d.textFor_divert_of_ne hsink]

/-- A program whose errors are appended to a text. -/
theorem exists_writing_diverted_errors :
    let sh : Shell := ⟨.standard, Probe.platform⟩
    let st := sh.start ⟨[(["tool".toList], .file 0o755 (.program 0 [])),
      (["log".toList], .file 0o644 (.text "old\n".toList))]⟩ .root
      ⟨[("PATH".toList, "/".toList)]⟩ []
    let r : Redirection := ⟨.err, .append, "log".toList, 3⟩
    let argv := ["tool".toList, "out:a".toList, "err:b".toList]
    ∃ (written : Writing) (plain diverted : State × Except LineError ExitCode),
      sh.Runs ⟨argv, none⟩ .own (openSink st r).1 plain ∧
      sh.runLine "tool out:a err:b 2>> log".toList .own st = diverted ∧ diverted.2 = plain.2 ∧
      diverted.1.contentsOf (.target (.file ["log".toList])) =
        some ((Contents.text "old\n".toList).append (written.textTo .err)) ∧
      written.textTo .err = "b\n".toList := by
  intro sh st r argv
  have hopen : openSink st r = ((openSink st r).1, .ok (.target (.file ["log".toList]))) :=
    Prod.ext rfl (by decide +kernel)
  let c : ProgramCall := ⟨"tool".toList, "/tool".toList, ["out:a".toList, "err:b".toList]⟩
  have hd : sh.dispatch st argv = .ok (.program c) :=
    dispatch_of_program? rfl (by decide +kernel)
  have hd' : sh.dispatch (openSink st r).1 argv = .ok (.program c) :=
    dispatch_of_program? rfl (by decide +kernel)
  have hfiles : ["log".toList] ∉ Streams.own.files := by simp
  have hidle : ¬ (Dispatched.program c).Executes Probe.platform (openSink st r).1
      ["log".toList] := by
    show c.startIn Probe.platform (openSink st r).1 [["log".toList]] ≠ .error (.os .fileBusy)
    decide +kernel
  have hline : Command.IsDenotedBy ⟨argv, some r⟩ "tool out:a err:b 2>> log".toList :=
    ⟨[.word "tool".toList, .word "out:a".toList, .word "err:b".toList,
      .operator ⟨some .err, .append⟩, .word "log".toList], by decide +kernel, by decide +kernel⟩
  obtain ⟨written, -, hdiverted⟩ := exists_writing_diverted Probe.platform hopen hfiles rfl hd
    (fun _ h => by simpa [h] using hd') hidle
  obtain ⟨hresult, -, htarget, -⟩ := hdiverted _ _ .command (.line hline)
  refine ⟨written, _, _, .command, rfl, hresult, htarget, ?_⟩
  have hgained : (sh.runLine "tool out:a err:b 2>> log".toList .own st).1.contentsOf
      (.target (.file ["log".toList])) = some (.text "old\nb\n".toList) := by
    decide +kernel
  have happend : (Contents.text "old\n".toList).append (written.textTo .err) =
      .text "old\nb\n".toList :=
    Option.some.inj (htarget.symm.trans hgained)
  simpa [Contents.append] using happend

/-- The target is a regular file behind none of the streams, and does not change what the
command is; yet the command ends otherwise than it does where the target is open. -/
def EndsOtherwise (sh : Shell) (st : State) (r : Redirection) (streams : Streams)
    (argv : List Text) : Prop :=
  ∃ a d, (openSink st r).2 = .ok (.target (.file a)) ∧ a ∉ streams.files ∧
    sh.dispatch st argv = .ok d ∧ sh.dispatch (openSink st r).1 argv = .ok d ∧
    (sh.runCommand ⟨argv, some r⟩ streams st).2 ≠
      (sh.runCommand ⟨argv, none⟩ streams (openSink st r).1).2

/-- Both conditions are needed: a program does not start whose own file is the target, and a
stream that refuses what is written to it, be it a full device or a pipe without a reader,
gives way to a target that takes it. -/
theorem exists_endsOtherwise :
    let sh : Shell := ⟨.standard, Probe.platform⟩
    let tool : Address := ["tool".toList]
    let st := sh.start ⟨[(tool, .file 0o755 (.program 0 []))]⟩ .root
      ⟨[("PATH".toList, "/".toList)]⟩ []
    sh.EndsOtherwise st ⟨.err, .append, "tool".toList, 2⟩ .own ["tool".toList, "out:x".toList] ∧
      sh.EndsOtherwise st ⟨.out, .truncate, "f".toList, 2⟩
        (Streams.own.divert .out (.target (.device .full))) ["echo".toList, "x".toList] ∧
      sh.EndsOtherwise st ⟨.out, .truncate, "f".toList, 2⟩
        (Streams.own.divert .out (.refusing .brokenPipe)) ["echo".toList, "x".toList] := by
  intro sh tool st
  let c : ProgramCall := ⟨"tool".toList, "/tool".toList, ["out:x".toList]⟩
  have hd : sh.dispatch st ["tool".toList, "out:x".toList] = .ok (.program c) :=
    dispatch_of_program? rfl (by decide +kernel)
  refine ⟨⟨tool, _, ?_, ?_, hd, dispatch_of_program? rfl ?_, ?_⟩,
    ⟨["f".toList], _, ?_, ?_, dispatch_of_builtin? rfl, dispatch_of_builtin? rfl, ?_⟩,
    ⟨["f".toList], _, ?_, ?_, dispatch_of_builtin? rfl, dispatch_of_builtin? rfl, ?_⟩⟩
  all_goals decide +kernel

end Shell

end CommandShell
