import CommandShell.Probe
import CommandShell.Proofs.Shell.Impartial
import CommandShell.Proofs.Shell.Lines

/-!
# What a name is said to stand for and what it runs

`type` goes by the names of the built-in commands in any case of their letters, and a name
is dispatched to a handler that is registered under exactly this name and takes it. So a
name that is told to be a program or not to be found is dispatched like that, while one
that is told to be built in may still stand for a program. What is dispatched to a
built-in command is told to be one, wherever programs are.

What is told about a name is its `Description`; the line about it is made from that.
The main statement is `Shell.tells_and_dispatches`.
-/

namespace CommandShell

namespace CommandTable

theorem mem_names_iff {t : CommandTable} {name : Text} :
    name ∈ t.names ↔ ∃ handler, (name, handler) ∈ t.handlers := by
  unfold names Text.sort
  have hperm := Text.perm_sortByKey ((t.handlers.map Prod.fst).map fun t => (t, ()))
  rw [(hperm.map Prod.fst).mem_iff]
  simp

theorem mem_names_of_get? {t : CommandTable} {name : Text} {handler : Handler}
    (h : t.get? name = some handler) : name ∈ t.names := by
  obtain ⟨entry, hfind, rfl⟩ := Option.map_eq_some_iff.1 h
  have hname : entry.1 = name := by simpa using List.find?_some hfind
  exact mem_names_iff.2 ⟨entry.2, hname ▸ List.mem_of_find?_eq_some hfind⟩

end CommandTable

namespace Describe

/-- On a stream that takes them all the lines are written, one for each name. -/
theorem exists_writeAll_eq {streams : Streams} (code : ExitCode) (ns : List Text) (st : State)
    (hout : st.refusal? streams.out = none) :
    ∃ st', writeAll streams.out code ns st =
        (st', .ok (if ∃ n ∈ ns, describe st n = .notFound then 1 else code)) ∧
      st.Receives st' streams (ns.map fun n => (.out, (describe st n).text n)) := by
  induction ns generalizing code st with
  | nil =>
      refine ⟨st, ?_, State.receives_nil (fun _ => rfl) streams⟩
      simp [writeAll]
  | cons n ns ih =>
      have hprint := State.print_of_taken hout ((describe st n).pieces n)
      have halike := st.alike_put streams.out ((describe st n).pieces n).flatten
      obtain ⟨st', heq, hreceives⟩ := ih (if describe st n = .notFound then 1 else code) _
        ((halike.refusal?_eq streams.out).trans hout)
      -- The files have kept their shape, so the other names are told as they were.
      have hsteady : ∀ m, describe (st.put streams.out ((describe st n).pieces n).flatten) m =
          describe st m := fun m => steady_describe m halike
      simp only [hsteady] at heq hreceives
      refine ⟨st', ?_, ?_⟩
      · simp only [writeAll, hprint, heq]
        by_cases hfirst : describe st n = .notFound
        · simp [hfirst]
        · simp [hfirst]
      · exact (st.receives_put streams .out _).append hreceives

end Describe

namespace Shell

/-- A handler is registered under exactly this name, and takes it without arguments. -/
def Accepts (sh : Shell) (env : Environment) (n : Text) : Prop :=
  ∃ handler, sh.builtins.get? n = some handler ∧ (handler env n []).isSome = true

/-- What a name runs if it is not built in. -/
def asProgram (st : State) (n : Text) : Except LineError Dispatched :=
  match program? st n [] with
  | some c => .ok (.program c)
  | none => .error (.commandNotFound n)

section

variable {sh : Shell} {st : State} {n : Text}

theorem accepts_iff : sh.Accepts st.env n ↔ (sh.builtin? st.env n []).isSome = true := by
  unfold Accepts builtin?
  rcases sh.builtins.get? n with _ | handler
  · simp
  · simp

instance : Decidable (sh.Accepts st.env n) := decidable_of_iff _ accepts_iff.symm

theorem exists_dispatch_of_accepts (h : sh.Accepts st.env n) :
    ∃ action, sh.dispatch st [n] = .ok (.builtin n action) := by
  obtain ⟨action, haction⟩ := Option.isSome_iff_exists.1 (accepts_iff.1 h)
  exact ⟨action, dispatch_of_builtin? haction⟩

theorem dispatch_of_not_accepts (h : ¬ sh.Accepts st.env n) :
    sh.dispatch st [n] = asProgram st n := by
  have hbuiltin : sh.builtin? st.env n [] = none := by simpa [accepts_iff] using h
  rcases hprogram : program? st n [] with _ | c
  · simp only [dispatch, hbuiltin, asProgram, hprogram]
  · simp only [dispatch, hbuiltin, asProgram, hprogram]

theorem accepts_of_dispatch {name : Text} {action : Action}
    (h : sh.dispatch st [n] = .ok (.builtin name action)) : sh.Accepts st.env n := by
  obtain ⟨_, _, hargv, ⟨_, _, hbuiltin⟩ | ⟨_, hprogram, _⟩⟩ := dispatch_cases h
  · cases hargv
    exact accepts_iff.2 (hbuiltin ▸ rfl)
  · cases hprogram

section

variable (hnames : ∀ m, m ∈ st.env.builtinNames ↔ m ∈ sh.builtins.names)
include hnames

theorem describe_eq_builtin_iff :
    Describe.describe st n = .builtin ↔
      ∃ m ∈ sh.builtins.names, Environment.sameUpToCase m n = true := by
  have hbuiltin : Describe.describe st n = .builtin ↔ st.env.namesBuiltin n = true := by
    unfold Describe.describe
    split
    case isTrue h => exact iff_of_true rfl h
    case isFalse h =>
        refine iff_of_false ?_ h
        split
        · simp
        · simp
  rw [hbuiltin, Environment.namesBuiltin, List.any_eq_true]
  constructor
  · rintro ⟨m, hm, hsame⟩
    exact ⟨m, (hnames m).1 hm, hsame⟩
  · rintro ⟨m, hm, hsame⟩
    exact ⟨m, (hnames m).2 hm, hsame⟩

theorem describe_of_accepts (h : sh.Accepts st.env n) : Describe.describe st n = .builtin := by
  obtain ⟨handler, hget, -⟩ := h
  refine (describe_eq_builtin_iff hnames).2 ⟨n, CommandTable.mem_names_of_get? hget, ?_⟩
  simp [Environment.sameUpToCase]

/-- A name that is not told to be built in runs the program that is told. -/
theorem dispatch_of_describe_ne_builtin (h : Describe.describe st n ≠ .builtin) :
    sh.dispatch st [n] =
      match Describe.describe st n with
      | .program p => .ok (.program ⟨n, p, []⟩)
      | _ => .error (.commandNotFound n) := by
  have hrefused : ¬ sh.Accepts st.env n := fun ha => h (describe_of_accepts hnames ha)
  rw [dispatch_of_not_accepts hrefused]
  unfold Describe.describe at h ⊢
  split at h
  · exact absurd rfl h
  · rename_i hbuiltin
    rw [if_neg hbuiltin, asProgram, program?]
    rcases Lookup.command? st.tree st.workDir (st.env.searchPath st.inherited) st.env.currentDir n
      with _ | p
    · rfl
    · rfl

end

end

/-- `type` and the dispatch tell the same about every name, for every table of built-in
commands, but for names that the table has in another case of letters or whose handler
does not take them. -/
theorem tells_and_dispatches {sh : Shell} {st : State}
    (hnames : ∀ m, m ∈ st.env.builtinNames ↔ m ∈ sh.builtins.names) {streams : Streams}
    (hout : st.refusal? streams.out = none) {names : List Text} (hne : names ≠ []) :
    (∃ st' code, (Describe.mk names).body streams.out st = (st', .ok code) ∧
      (Describe.mk names).action streams st =
        Action.settle [streams.out, streams.err] code st' ∧
      code = (if ∃ n ∈ names, Describe.describe st n = .notFound then 1 else 0) ∧
      st.Receives st' streams (names.map fun n => (.out, (Describe.describe st n).text n))) ∧
    ∀ n ∈ names,
      (∀ p, Describe.describe st n = .program p →
        (Describe.describe st n).text n = n ++ " is ".toList ++ p ++ "\n".toList ∧
        sh.dispatch st [n] = .ok (.program ⟨n, p, []⟩)) ∧
      (Describe.describe st n = .notFound →
        (Describe.describe st n).text n = n ++ ": not found\n".toList ∧
        sh.dispatch st [n] = .error (.commandNotFound n)) ∧
      (Describe.describe st n = .builtin →
        (Describe.describe st n).text n = n ++ " is a shell builtin\n".toList ∧
        (∃ m ∈ sh.builtins.names, Environment.sameUpToCase m n = true) ∧
        ((∃ action, sh.dispatch st [n] = .ok (.builtin n action)) ↔ sh.Accepts st.env n) ∧
        (¬ sh.Accepts st.env n → sh.dispatch st [n] = asProgram st n)) ∧
      ∀ name action, sh.dispatch st [n] = .ok (.builtin name action) →
        name = n ∧ Describe.describe st n = .builtin := by
  constructor
  · obtain ⟨st', heq, hreceives⟩ := Describe.exists_writeAll_eq 0 names st hout
    have hbody : (Describe.mk names).body streams.out st = (st', .ok _) :=
      (if_neg hne).trans heq
    refine ⟨st', _, hbody, ?_, rfl, hreceives⟩
    simp only [Describe.action, Action.ofBody, hbody]
  · intro n _
    refine ⟨?_, ?_, ?_, ?_⟩
    · intro p hp
      rw [dispatch_of_describe_ne_builtin hnames (by simp [hp]), hp]
      exact ⟨by simp [Description.text, Description.pieces], rfl⟩
    · intro hnone
      rw [dispatch_of_describe_ne_builtin hnames (by simp [hnone]), hnone]
      exact ⟨by simp [Description.text, Description.pieces], rfl⟩
    · intro hbuiltin
      refine ⟨?_, (describe_eq_builtin_iff hnames).1 hbuiltin, ?_, dispatch_of_not_accepts⟩
      · rw [hbuiltin]
        simp [Description.text, Description.pieces]
      constructor
      · rintro ⟨action, hd⟩
        exact accepts_of_dispatch hd
      · exact exists_dispatch_of_accepts
    · intro name action hd
      refine ⟨?_, describe_of_accepts hnames (accepts_of_dispatch hd)⟩
      obtain ⟨_, _, hargv, ⟨_, hname, _⟩ | ⟨_, hprogram, _⟩⟩ := dispatch_cases hd
      · cases hargv
        cases hname
        rfl
      · cases hprogram

/-- A table in which one name is registered for a command of another name. -/
theorem tells_and_dispatches_renamed :
    let sh : Shell := ⟨.ofList [("cd".toList, Builtin.cd.handler),
      ("Go".toList, Builtin.cd.handler)], Probe.platform⟩
    let st := sh.start ⟨[(["Go".toList], .file 0o755 (.program 0 [])),
      (["ls".toList], .file 0o755 (.program 0 []))]⟩ .root ⟨[("PATH".toList, "/".toList)]⟩ []
    let names := ["CD".toList, "Go".toList, "ls".toList, "no".toList]
    (∃ st', (Describe.mk names).body (.own .out) st = (st', .ok 1) ∧
      (Describe.mk names).action .own st = (st', .ok 1) ∧
      st'.output .out =
        "CD is a shell builtin\nGo is a shell builtin\nls is /ls\nno: not found\n".toList) ∧
      sh.dispatch st ["CD".toList] = .error (.commandNotFound "CD".toList) ∧
      sh.dispatch st ["Go".toList] = .ok (.program ⟨"Go".toList, "/Go".toList, []⟩) ∧
      sh.dispatch st ["ls".toList] = .ok (.program ⟨"ls".toList, "/ls".toList, []⟩) ∧
      sh.dispatch st ["no".toList] = .error (.commandNotFound "no".toList) := by
  intro sh st names
  have hnames : ∀ m, m ∈ st.env.builtinNames ↔ m ∈ sh.builtins.names := fun _ => Iff.rfl
  have hout : st.refusal? Streams.own.out = none := rfl
  have hne : names ≠ [] := List.cons_ne_nil _ _
  obtain ⟨⟨st', code, hbody, haction, hcode, hreceives⟩, htold⟩ :=
    tells_and_dispatches hnames hout hne
  have hno : Describe.describe st "no".toList = .notFound := by decide +kernel
  obtain ⟨hCDtext, -, -, hCD⟩ := (htold "CD".toList (by decide)).2.2.1 (by decide +kernel)
  obtain ⟨hGotext, -, -, hGo⟩ := (htold "Go".toList (by decide)).2.2.1 (by decide +kernel)
  obtain ⟨hlstext, hls⟩ := (htold "ls".toList (by decide)).1 "/ls".toList (by decide +kernel)
  obtain ⟨hnotext, hnone⟩ := (htold "no".toList (by decide)).2.1 hno
  have hCDprogram : program? st "CD".toList [] = none := by decide +kernel
  have hGoprogram : program? st "Go".toList [] = some ⟨"Go".toList, "/Go".toList, []⟩ := by
    decide +kernel
  obtain rfl : code = 1 := hcode.trans (if_pos ⟨"no".toList, by decide, hno⟩)
  have hstandard : st'.standard = st.standard := by
    have hkept : ((Describe.mk names).body (.own .out) st).1.standard = st.standard := by
      decide +kernel
    rwa [show (Describe.mk names).body (.own .out) st = (st', .ok 1) from hbody] at hkept
  refine ⟨⟨st', hbody, ?_, ?_⟩, ?_, ?_, hls, hnone⟩
  · rw [haction, Action.settle, State.flush_of_standard_eq hstandard]
    rfl
  · rw [State.output_eq_of_contentsOf (hreceives (.own .out))]
    simp only [names, List.map_cons, List.map_nil, hCDtext, hGotext, hlstext, hnotext]
    decide +kernel
  · rw [hCD (by decide +kernel), asProgram, hCDprogram]
  · rw [hGo (by decide +kernel), asProgram, hGoprogram]

end Shell

end CommandShell
