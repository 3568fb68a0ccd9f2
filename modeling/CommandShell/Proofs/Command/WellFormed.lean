import CommandShell.Command
import CommandShell.Proofs.Token.Rendering

/-!
# The commands that lines denote

A line denotes the command that its tokens make. Such a command has a name, and none
of its words is empty; its redirection stands right behind its words. These are all
conditions: a command that satisfies them is denoted by every line that writes its
words in some quoting, then an operator of its redirection with the target, and spare
words behind it.

The main statement is `exists_isDenotedBy_iff_wellFormed`, which also says that the
written form of a command, `Command.print`, is read as the command again.
-/

namespace CommandShell

namespace Command

open Token

/-- What tokens have to be for a command to be read from them. -/
inductive Parsed.ReadFrom : Parsed → List Token → Prop where
  | plain {argv : List Text} (h : argv ≠ []) : ReadFrom ⟨⟨argv, none⟩, []⟩ (argv.map word)
  | redirected {argv : List Text} (h : argv ≠ []) (o : Operator) (filename : Text)
      (ignored : List Text) :
      ReadFrom ⟨⟨argv, some ⟨o.stream, o.mode, filename, argv.length⟩⟩, ignored⟩
        (argv.map word ++ operator o :: word filename :: ignored.map word)

/-- Tokens are words only, or words in front of an operator. -/
theorem exists_words (ts : List Token) :
    ∃ ws : List Text, ts = ws.map word ∨ ∃ o rest, ts = ws.map word ++ operator o :: rest := by
  rcases h : splitAtOperator ts with ⟨ws, _ | ⟨o, rest⟩⟩
  · exact ⟨ws, Or.inl (splitAtOperator_eq_none_iff.1 h)⟩
  · exact ⟨ws, Or.inr ⟨o, rest, splitAtOperator_eq_some_iff.1 h⟩⟩

theorem splitAtOperator_map_word (ws : List Text) :
    splitAtOperator (ws.map word) = (ws, none) :=
  splitAtOperator_eq_none_iff.2 rfl

theorem splitAtOperator_operator (ws : List Text) (o : Operator) (rest : List Token) :
    splitAtOperator (ws.map word ++ operator o :: rest) = (ws, some (o, rest)) :=
  splitAtOperator_eq_some_iff.2 rfl

theorem parse_map_word {argv : List Text} (h : argv ≠ []) :
    parse (argv.map word) = .ok (some ⟨⟨argv, none⟩, []⟩) := by
  cases argv with
  | nil => exact absurd rfl h
  | cons w ws =>
      rw [parse, splitAtOperator_map_word]

theorem parse_operator_cons (o : Operator) (rest : List Token) :
    parse (operator o :: rest) = .error (.missingCommand o) := by
  rw [parse, splitAtOperator_operator_cons]

section

variable {argv : List Text} (h : argv ≠ []) (o : Operator)
include h

theorem parse_operator_end :
    parse (argv.map word ++ [operator o]) = .error .unexpectedEnd := by
  cases argv with
  | nil => exact absurd rfl h
  | cons w ws =>
      rw [parse, splitAtOperator_operator]

theorem parse_operator_operator (o' : Operator) (rest : List Token) :
    parse (argv.map word ++ operator o :: operator o' :: rest) =
      .error (.unexpectedToken o') := by
  cases argv with
  | nil => exact absurd rfl h
  | cons w ws =>
      rw [parse, splitAtOperator_operator]

theorem parse_target_words (filename : Text) (ignored : List Text) :
    parse (argv.map word ++ operator o :: word filename :: ignored.map word) =
      .ok (some ⟨⟨argv, some ⟨o.stream, o.mode, filename, argv.length⟩⟩, ignored⟩) := by
  cases argv with
  | nil => exact absurd rfl h
  | cons w ws =>
      rw [parse, splitAtOperator_operator]
      simp only [splitAtOperator_map_word]

theorem parse_target_operator (filename : Text) (ws : List Text) (o' : Operator)
    (rest : List Token) :
    parse (argv.map word ++ operator o :: word filename ::
        (ws.map word ++ operator o' :: rest)) = .error (.unexpectedToken o') := by
  cases argv with
  | nil => exact absurd rfl h
  | cons w ws =>
      rw [parse, splitAtOperator_operator]
      simp only [splitAtOperator_operator]

end

theorem readFrom_of_parse {ts : List Token} {p : Parsed} (h : parse ts = .ok (some p)) :
    p.ReadFrom ts := by
  obtain ⟨argv, rfl | ⟨o, rest, rfl⟩⟩ := exists_words ts
  · rcases eq_or_ne argv [] with rfl | hargv
    · cases h
    · rw [parse_map_word hargv] at h
      cases h
      exact .plain hargv
  · rcases eq_or_ne argv [] with rfl | hargv
    · rw [List.map_nil, List.nil_append, parse_operator_cons] at h
      cases h
    · cases rest with
      | nil =>
          rw [parse_operator_end hargv] at h
          cases h
      | cons t more =>
          cases t with
          | operator o' =>
              rw [parse_operator_operator hargv] at h
              cases h
          | word filename =>
              obtain ⟨ws, rfl | ⟨o', rest', rfl⟩⟩ := exists_words more
              · rw [parse_target_words hargv] at h
                cases h
                exact .redirected hargv o filename ws
              · rw [parse_target_operator hargv] at h
                cases h

theorem parse_of_readFrom {ts : List Token} {p : Parsed} (h : p.ReadFrom ts) :
    parse ts = .ok (some p) := by
  cases h with
  | plain hargv => exact parse_map_word hargv
  | redirected hargv o filename ignored => exact parse_target_words hargv o filename ignored

theorem parse_eq_ok_some_iff {ts : List Token} {p : Parsed} :
    parse ts = .ok (some p) ↔ p.ReadFrom ts :=
  ⟨readFrom_of_parse, parse_of_readFrom⟩

/-- The command is what the line says. -/
def IsDenotedBy (c : Command) (line : Text) : Prop :=
  ∃ ts, ofLine line = .ok ts ∧ ofTokens ts = .ok (some c)

/-- The command has a name and no empty word, and its operator stands behind its words. -/
structure WellFormed (c : Command) : Prop where
  argv_ne_nil : c.argv ≠ []
  nil_notMem_argv : [] ∉ c.argv
  filename_ne_nil : ∀ r ∈ c.redirection, r.filename ≠ []
  operatorIndex_eq : ∀ r ∈ c.redirection, r.operatorIndex = c.argv.length

theorem ofTokens_eq_ok_some_iff {ts : List Token} {c : Command} :
    ofTokens ts = .ok (some c) ↔ ∃ ignored, Parsed.ReadFrom ⟨c, ignored⟩ ts := by
  constructor
  · intro h
    rcases hparse : parse ts with e | _ | ⟨c', ignored⟩
    · rw [ofTokens, hparse] at h
      cases h
    · rw [ofTokens, hparse] at h
      cases h
    · rw [ofTokens, hparse] at h
      cases h
      exact ⟨ignored, parse_eq_ok_some_iff.1 hparse⟩
  · rintro ⟨ignored, h⟩
    rw [ofTokens, parse_eq_ok_some_iff.2 h]
    rfl

/-- Reading gives a well-formed command, since no token of a line is an empty word. -/
theorem IsDenotedBy.wellFormed {c : Command} {line : Text} (h : c.IsDenotedBy line) :
    c.WellFormed := by
  obtain ⟨ts, hline, hts⟩ := h
  obtain ⟨ignored, hread⟩ := ofTokens_eq_ok_some_iff.1 hts
  have hword : ∀ w, .word w ∈ ts → w ≠ [] := fun w hw => ne_nil_of_mem_ofLine hline hw
  cases hread with
  | plain hargv =>
      refine ⟨hargv, ?_, nofun, nofun⟩
      intro hnil
      exact hword [] (List.mem_map_of_mem hnil) rfl
  | redirected hargv o filename ignored =>
      refine ⟨hargv, ?_, ?_, ?_⟩
      · intro hnil
        exact hword [] (List.mem_append_left _ (List.mem_map_of_mem hnil)) rfl
      · intro r hr
        obtain rfl := Option.some.inj hr
        exact hword filename (by simp)
      · intro r hr
        obtain rfl := Option.some.inj hr
        rfl

/-- The command is written as these tokens: its words in whatever quoting, and an
operator of its redirection with the target and spare words. -/
def IsWrittenAs (c : Command) (ts : List WrittenToken) : Prop :=
  ∃ argv : List WrittenWord, argv.map WrittenWord.value = c.argv ∧
    match c.redirection with
    | none => ts = argv.map .word
    | some r => ∃ (o : Operator) (filename : WrittenWord) (ignored : List WrittenWord),
        o.stream = r.stream ∧ o.mode = r.mode ∧ filename.value = r.filename ∧
          ts = argv.map .word ++ .operator o :: .word filename :: ignored.map .word

/-- Written tokens with single spaces between them. -/
def lineOf (ts : List WrittenToken) : Text := Text.join [' '] (ts.map WrittenToken.written)

theorem ofLine_lineOf (ts : List WrittenToken) :
    ofLine (lineOf ts) = .ok (ts.map WrittenToken.token) := by
  rw [lineOf, ← Rendering.written_spaced, Rendering.ofLine_written, Rendering.tokens_spaced]

theorem map_token_map_word (ws : List WrittenWord) :
    (ws.map WrittenToken.word).map WrittenToken.token = (ws.map WrittenWord.value).map word := by
  rw [List.map_map, List.map_map]
  rfl

theorem map_token_redirected (argv : List WrittenWord) (o : Operator)
    (filename : WrittenWord) (ignored : List WrittenWord) :
    (argv.map WrittenToken.word ++ WrittenToken.operator o :: WrittenToken.word filename ::
        ignored.map WrittenToken.word).map WrittenToken.token =
      (argv.map WrittenWord.value).map word ++ operator o :: word filename.value ::
        (ignored.map WrittenWord.value).map word := by
  rw [List.map_append, List.map_cons, List.map_cons, map_token_map_word, map_token_map_word]
  rfl

theorem IsWrittenAs.isDenotedBy {c : Command} {ts : List WrittenToken} (h : c.IsWrittenAs ts)
    (hc : c.WellFormed) : c.IsDenotedBy (lineOf ts) := by
  refine ⟨_, ofLine_lineOf ts, ofTokens_eq_ok_some_iff.2 ?_⟩
  rcases c with ⟨argv, _ | ⟨stream, mode, filename, index⟩⟩
  · obtain ⟨ws, rfl, rfl⟩ := h
    rw [map_token_map_word]
    exact ⟨[], .plain hc.argv_ne_nil⟩
  · obtain ⟨ws, rfl, o, f, ignored, rfl, rfl, rfl, rfl⟩ := h
    have hindex : index = (ws.map WrittenWord.value).length := hc.operatorIndex_eq _ rfl
    subst hindex
    rw [map_token_redirected]
    exact ⟨_, .redirected hc.argv_ne_nil o f.value _⟩

/-- A word with a backslash in front of each of its characters. -/
def escape (w : Text) : Text := w.flatMap fun c => ['\\', c]

/-- A line for a command. -/
def print (c : Command) : Text :=
  Text.join [' '] (c.argv.map escape ++
    match c.redirection with
    | none => []
    | some r => [(Operator.mk (some r.stream) r.mode).text, escape r.filename])

theorem written_ofText (w : Text) (h : w ≠ []) : (WrittenWord.ofText w h).written = escape w := by
  simp only [WrittenWord.written, WrittenWord.ofText, List.flatMap_map, Segment.written, escape]

theorem exists_writtenWords {ws : List Text} (h : [] ∉ ws) :
    ∃ vs : List WrittenWord, vs.map WrittenWord.value = ws ∧
      vs.map WrittenWord.written = ws.map escape := by
  induction ws with
  | nil => exact ⟨[], rfl, rfl⟩
  | cons w ws ih =>
      obtain ⟨vs, hvalue, hwritten⟩ := ih (List.not_mem_of_not_mem_cons h)
      have hw : w ≠ [] := fun hw => h (hw ▸ List.mem_cons_self)
      refine ⟨WrittenWord.ofText w hw :: vs, ?_, ?_⟩
      · rw [List.map_cons, hvalue, WrittenWord.value_ofText]
      · rw [List.map_cons, hwritten, written_ofText, List.map_cons]

theorem WellFormed.exists_isWrittenAs {c : Command} (h : c.WellFormed) :
    ∃ ts, c.IsWrittenAs ts ∧ lineOf ts = c.print := by
  obtain ⟨vs, hvalue, hwritten⟩ := exists_writtenWords h.nil_notMem_argv
  have hwords : (vs.map WrittenToken.word).map WrittenToken.written = c.argv.map escape := by
    rw [List.map_map, ← hwritten]
    rfl
  rcases c with ⟨argv, _ | r⟩
  · refine ⟨vs.map .word, ⟨vs, hvalue, rfl⟩, ?_⟩
    rw [lineOf, hwords, print, List.append_nil]
  · have hfilename : r.filename ≠ [] := h.filename_ne_nil r rfl
    refine ⟨vs.map .word ++ [.operator ⟨some r.stream, r.mode⟩,
      .word (WrittenWord.ofText r.filename hfilename)], ?_, ?_⟩
    · exact ⟨vs, hvalue, _, _, [], rfl, rfl, WrittenWord.value_ofText _ _, rfl⟩
    · rw [lineOf, List.map_append, hwords, List.map_cons, List.map_cons, WrittenToken.written,
        WrittenToken.written, written_ofText]
      rfl

/-- What is printed for a well-formed command denotes it. -/
theorem WellFormed.isDenotedBy_print {c : Command} (h : c.WellFormed) :
    c.IsDenotedBy c.print := by
  obtain ⟨ts, hts, hprint⟩ := h.exists_isWrittenAs
  exact hprint ▸ hts.isDenotedBy h

/-- The commands that lines denote are the well-formed ones, each of them on every line
that writes it, and what is printed for a command that was read is read as this command
again. -/
theorem exists_isDenotedBy_iff_wellFormed :
    (∀ c : Command, (∃ line, c.IsDenotedBy line) ↔ c.WellFormed) ∧
      (∀ (c : Command) (ts : List WrittenToken), c.WellFormed → c.IsWrittenAs ts →
        c.IsDenotedBy (lineOf ts)) ∧
      ∀ (c : Command) (line : Text), c.IsDenotedBy line → c.IsDenotedBy c.print := by
  refine ⟨?_, ?_, ?_⟩
  · intro c
    constructor
    · rintro ⟨line, h⟩
      exact h.wellFormed
    · intro h
      exact ⟨c.print, h.isDenotedBy_print⟩
  · intro c ts hc hts
    exact hts.isDenotedBy hc
  · intro c line h
    exact h.wellFormed.isDenotedBy_print

end Command

end CommandShell
