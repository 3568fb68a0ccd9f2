import CommandShell.Proofs.Shell.EndedInput
import CommandShell.Proofs.Text.Decimal

/-!
# Arguments that ask to exit

`exit` asks for a status with no argument, or with one that writes an integer of 32 bits
(`Exit.Asks`). All other arguments are refused, with a message of their own
(`Exit.Refuses`). Each list of arguments does one of the two (`Exit.asks_or_refuses`), and
reading the arguments tells which (`Exit.exists_ofArguments_iff`,
`Exit.exists_ofArguments_error_iff`).

A line of `exit` whose arguments ask leaves the request and has its status, if the target
of its redirection can be opened and its streams take what they get
(`Shell.exists_runLine_of_asks`), and there is no other way to a request
(`Shell.exists_of_requestedExit`).
-/

namespace CommandShell

theorem Text.trimEnd_append_singleton {c : Char} (h : isWhiteSpace c = false) (t : Text) :
    trimEnd (t ++ [c]) = t ++ [c] := by
  rw [trimEnd, List.reverse_append, List.reverse_singleton, List.singleton_append,
    List.dropWhile_cons_of_neg (by simp [h]), List.reverse_cons, List.reverse_reverse]

namespace Exit

/-- The arguments ask for a status. -/
inductive Asks : List Text → ExitCode → Prop
  | nothing : Asks [] 0
  | integer {s : Text} {n : Int} (h : s.Writes n) (hleast : -2 ^ 31 ≤ n)
      (hgreatest : n ≤ 2 ^ 31 - 1) : Asks [s] n

/-- The arguments are refused with a message. -/
inductive Refuses : List Text → Text → Prop
  | notNumeric {s : Text} (h : ∀ n, ¬ Asks [s] n) :
      Refuses [s] (name ++ ": ".toList ++ s ++ ": numeric argument required".toList)
  | tooMany (s s' : Text) (rest : List Text) :
      Refuses (s :: s' :: rest) (name ++ ": too many arguments".toList)

theorem asks_nil_iff {n : ExitCode} : Asks [] n ↔ n = 0 := by
  constructor
  · intro h
    cases h
    rfl
  · rintro rfl
    exact .nothing

theorem asks_singleton_iff {s : Text} {n : ExitCode} :
    Asks [s] n ↔ s.Writes n ∧ least ≤ n ∧ n ≤ greatest := by
  constructor
  · intro h
    cases h with
    | integer h hleast hgreatest => exact ⟨h, hleast, hgreatest⟩
  · rintro ⟨h, hleast, hgreatest⟩
    exact .integer h hleast hgreatest

theorem not_asks_cons_cons (s s' : Text) (rest : List Text) (n : ExitCode) :
    ¬ Asks (s :: s' :: rest) n := by
  intro h
  cases h

theorem not_refuses_nil (message : Text) : ¬ Refuses [] message := by
  intro h
  cases h

theorem Asks.eq {args : List Text} {n n' : ExitCode} (h : Asks args n) (h' : Asks args n') :
    n = n' := by
  cases h with
  | nothing => exact (asks_nil_iff.1 h').symm
  | integer h => exact h.eq (asks_singleton_iff.1 h').1

theorem asks_or_refuses (args : List Text) :
    (∃ n, Asks args n ∧ ∀ message, ¬ Refuses args message) ∨
      ∃ message, Refuses args message ∧ ∀ n, ¬ Asks args n := by
  rcases args with _ | ⟨s, _ | ⟨s', rest⟩⟩
  · exact .inl ⟨0, .nothing, not_refuses_nil⟩
  · by_cases h : ∃ n, Asks [s] n
    · obtain ⟨n, hn⟩ := h
      refine .inl ⟨n, hn, ?_⟩
      rintro _ ⟨hnone⟩
      exact hnone n hn
    · exact .inr ⟨_, .notNumeric (not_exists.1 h), not_exists.1 h⟩
  · exact .inr ⟨_, .tooMany s s' rest, not_asks_cons_cons s s' rest⟩

theorem digitsValue?_eq_some_iff {t : Text} {n : Nat} :
    digitsValue? t = some n ↔ t.IsNumeral ∧ n = Text.numberOf t := by
  unfold digitsValue?
  rw [Text.foldl_digits]
  split
  case isTrue h =>
      have hnumeral : t.IsNumeral := ⟨h.1, List.all_eq_true.1 h.2⟩
      simp [hnumeral, eq_comm]
  case isFalse h =>
      have hnumeral : ¬ t.IsNumeral :=
        fun hnumeral => h ⟨hnumeral.ne_nil, List.all_eq_true.2 hnumeral.isDigit⟩
      simp [hnumeral]

theorem filter_map_digitsValue?_eq_some_iff {digits : Text} {f : Nat → Int} {n : ExitCode} :
    ((digitsValue? digits).map f).filter (fun n => least ≤ n ∧ n ≤ greatest) = some n ↔
      (digits.IsNumeral ∧ n = f digits.numberOf) ∧ least ≤ n ∧ n ≤ greatest := by
  rw [Option.filter_eq_some_iff, Option.map_eq_some_iff, decide_eq_true_iff]
  refine and_congr_left fun _ => ?_
  constructor
  · rintro ⟨m, hm, rfl⟩
    obtain ⟨hnumeral, rfl⟩ := digitsValue?_eq_some_iff.1 hm
    exact ⟨hnumeral, rfl⟩
  · rintro ⟨hnumeral, rfl⟩
    exact ⟨_, digitsValue?_eq_some_iff.2 ⟨hnumeral, rfl⟩, rfl⟩

theorem code?_plus (digits : Text) : code? ('+' :: digits) =
    ((digitsValue? digits).map Int.ofNat).filter fun n => least ≤ n ∧ n ≤ greatest := rfl

theorem code?_minus (digits : Text) : code? ('-' :: digits) =
    ((digitsValue? digits).map fun n : Nat => -(n : Int)).filter
      fun n => least ≤ n ∧ n ≤ greatest := by
  rcases hvalue : digitsValue? digits with _ | m
  · simp [code?, hvalue]
  · simp [code?, hvalue]

theorem code?_of_unsigned {t : Text} (hplus : t.head? ≠ some '+') (hminus : t.head? ≠ some '-') :
    code? t = ((digitsValue? t).map Int.ofNat).filter fun n => least ≤ n ∧ n ≤ greatest := by
  unfold code?
  split
  · exact absurd rfl hplus
  · exact absurd rfl hminus
  · rfl

theorem code?_eq_some_iff {t : Text} {n : ExitCode} :
    code? t = some n ↔ t.Writes n ∧ least ≤ n ∧ n ≤ greatest := by
  by_cases hplus : t.head? = some '+'
  · obtain ⟨digits, rfl⟩ := List.head?_eq_some_iff.1 hplus
    rw [Text.writes_plus_iff, code?_plus]
    exact filter_map_digitsValue?_eq_some_iff
  by_cases hminus : t.head? = some '-'
  · obtain ⟨digits, rfl⟩ := List.head?_eq_some_iff.1 hminus
    rw [Text.writes_minus_iff, code?_minus]
    exact filter_map_digitsValue?_eq_some_iff
  · rw [Text.writes_iff_of_unsigned hplus hminus, code?_of_unsigned hplus hminus]
    exact filter_map_digitsValue?_eq_some_iff

/-- Arguments that ask for a status are read as it. -/
theorem exists_ofArguments_iff {args : List Text} {n : ExitCode} :
    (∃ e, ofArguments args = .ok e ∧ e.code.getD 0 = n) ↔ Asks args n := by
  rcases args with _ | ⟨s, _ | ⟨s', rest⟩⟩
  · rw [asks_nil_iff]
    simp [ofArguments, eq_comm]
  · rw [asks_singleton_iff, ← code?_eq_some_iff, ofArguments]
    rcases code? s with _ | m
    · simp
    · simp
  · simp [ofArguments, not_asks_cons_cons]

theorem exists_ofArguments_error_iff {args : List Text} {message : Text} :
    (∃ e, ofArguments args = .error e ∧ e.message = message) ↔ Refuses args message := by
  rcases args with _ | ⟨s, _ | ⟨s', rest⟩⟩
  · simp [ofArguments, not_refuses_nil]
  · rcases hcode : code? s with _ | n
    · rw [ofArguments, hcode]
      constructor
      · rintro ⟨e, h, rfl⟩
        cases h
        refine .notNumeric fun n hn => ?_
        rw [asks_singleton_iff, ← code?_eq_some_iff, hcode] at hn
        cases hn
      · rintro ⟨-⟩
        exact ⟨.notNumeric s, rfl, rfl⟩
    · have hn := asks_singleton_iff.2 (code?_eq_some_iff.1 hcode)
      rw [ofArguments, hcode]
      constructor
      · rintro ⟨e, h, -⟩
        cases h
      · rintro ⟨hnone⟩
        exact absurd hn (hnone n)
  · constructor
    · rintro ⟨e, h, rfl⟩
      cases h
      exact .tooMany s s' rest
    · rintro ⟨⟩
      exact ⟨.tooMany, rfl, rfl⟩

/-- Nothing is written, and the request is the only change. It ends like every command, behind
which the streams are flushed. -/
theorem action_of_asks {args : List Text} {n : ExitCode} (h : Asks args n) (streams : Streams)
    (st : State) : Builtin.exit.action args streams st =
      ({ st with env := { st.env with requestedExit := some n } },
        (Action.settle [streams.out, streams.err] n st).2) := by
  obtain ⟨e, hargs, rfl⟩ := exists_ofArguments_iff.2 h
  have hflush : State.flush { st with env := { st.env with requestedExit := some (e.code.getD 0) } }
      [streams.out, streams.err] = st.flush [streams.out, streams.err] :=
    State.flush_of_standard_eq rfl _
  simp only [Builtin.action, hargs, action, Action.ofBody, Action.settle, hflush]
  rcases st.flush [streams.out, streams.err] with e | _
  · rfl
  · rfl

theorem Refuses.trimEnd_eq {args : List Text} {message : Text} (h : Refuses args message) :
    Text.trimEnd message = message := by
  cases h with
  | notNumeric =>
      have hlast : ": numeric argument required".toList =
          ": numeric argument require".toList ++ ['d'] := rfl
      rw [hlast, ← List.append_assoc]
      exact Text.trimEnd_append_singleton (by decide) _
  | tooMany => decide

/-- The message is written, and nothing else happens. -/
theorem action_of_refuses {args : List Text} {message : Text} (h : Refuses args message)
    (streams : Streams) (st : State) :
    Builtin.exit.action args streams st = Action.tell streams.err message [streams.err] 2 st := by
  obtain ⟨e, hargs, rfl⟩ := exists_ofArguments_error_iff.2 h
  simp only [Builtin.action, hargs, Action.refusal, h.trimEnd_eq]

theorem exists_action_of_refuses {args : List Text} {message : Text} (h : Refuses args message)
    {streams : Streams} {st : State} (htaken : st.refusal? streams.err = none) :
    ∃ st', Builtin.exit.action args streams st = (st', .ok 2) ∧ st.Alike st' ∧
      st.Receives st' streams [(.err, Text.line message)] := by
  have halike := st.alike_put streams.err (Text.line message)
  have hflush := State.flushRefusal?_of_taken ((halike.refusal?_eq _).trans htaken)
  have hflatten : [message, ['\n']].flatten = Text.line message := by simp [Text.line]
  refine ⟨st.put streams.err (Text.line message), ?_, halike,
    st.receives_put streams .err (Text.line message)⟩
  rw [action_of_refuses h, Action.tell, State.print_of_taken htaken, hflatten]
  simp only [Action.settle, State.flush, List.findSome?_cons, List.findSome?_nil, hflush]

end Exit

namespace Shell

theorem dispatch_exit (pf : Platform) (st : State) (args : List Text) :
    dispatch ⟨.standard, pf⟩ st (Exit.name :: args) =
      .ok (.builtin Exit.name (Builtin.exit.action args)) :=
  dispatch_of_builtin? rfl

/-- A line that asks to exit leaves the request if the target of its redirection can be opened. -/
theorem exists_runLine_of_asks {args : List Text} {r : Option Redirection} {line : Text}
    (hline : Command.IsDenotedBy ⟨Exit.name :: args, r⟩ line) {n : ExitCode}
    (h : Exit.Asks args n) (pf : Platform) (streams : Streams) (st : State) :
    (∃ e, (runLine ⟨.standard, pf⟩ line streams st).2 = .error (.redirect e)) ∨
      ∃ s result, st.SameSession s ∧ st.Ends streams n result ∧
        runLine ⟨.standard, pf⟩ line streams st =
          ({ s with env := { s.env with requestedExit := some n } }, result) := by
  obtain ⟨st₁, hnotes, hrun⟩ := exists_runLine_eq hline ⟨.standard, pf⟩ streams st
  rw [hrun, runCommand, dispatch_exit]
  dsimp only
  rw [runRedirected_eq]
  have hnotes' := hnotes.note (Dispatched.builtin Exit.name (Builtin.exit.action args)).event
  rcases hopen : openStreams r streams (st₁.note (Dispatched.builtin Exit.name
      (Builtin.exit.action args)).event) with ⟨s, e | streams'⟩
  · exact .inl ⟨e, rfl⟩
  · refine .inr ⟨s, _, hnotes'.toSameSession.trans (sameSession_of_openStreams hopen), ?_,
      Exit.action_of_asks h streams' s⟩
    obtain hok | ⟨cause, hflush, hresult⟩ := Action.ends_settle streams' n s
    · exact .inl hok
    · have hgiven := flush_error_of_openStreams hopen hflush
      rw [State.flush_of_standard_eq hnotes'.standard] at hgiven
      exact .inr ⟨cause, hgiven, hresult⟩

/-- A request that was not there in front of a line comes from the line, which asks for it
and has the status that it asks for, if the standard output takes what it gets. -/
theorem exists_of_requestedExit {sh : Shell} (hsh : sh.builtins.OfBuiltins) {line : Text}
    {st : State} {n : ExitCode} (htaken : st.refusal? (.own .out) = none)
    (hst : st.env.requestedExit = none)
    (h : (sh.runReporting line st).1.env.requestedExit = some n) :
    ∃ args r, Command.IsDenotedBy ⟨Exit.name :: args, r⟩ line ∧ Exit.Asks args n ∧
      sh.runLine line .own st = ((sh.runReporting line st).1, .ok n) := by
  have hrun := (runReporting_of_requestedExit hsh htaken hst h).1
  rw [(sameSession_runReporting sh line st).env] at h
  obtain ⟨⟨args, r, hline, hasked⟩, -⟩ := isAskedBy_of_requestedExit hsh hst h
  refine ⟨args, r, hline, ?_, hrun⟩
  obtain ⟨rfl, rfl⟩ | ⟨s, rfl, hs⟩ := hasked
  · exact .nothing
  · exact Exit.asks_singleton_iff.2 (Exit.code?_eq_some_iff.1 hs)

end Shell

end CommandShell
