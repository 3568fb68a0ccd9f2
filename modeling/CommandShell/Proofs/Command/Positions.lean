import CommandShell.Proofs.Command.WellFormed

/-!
# Commands by the positions of their operators

Which outcome a token list has is decided by its operators and where they stand
(`Command.byPositions`): the first of them, whether there is a second, and whether a token
is behind the first. The words give the command its texts, and those behind the target
give it nothing.

A command can also be assembled by index: the scan gives the position of the first
operator, and the list is then read again from there (`Command.assemble?`). Two walks over
one list agree on what stands at an index, so the assembly is never without an operator.

The main statement is `Command.assemble?_eq_some_and_ofTokens_eq`.
-/

namespace CommandShell

namespace Token

/-- The operators of a token list with their positions, where the first position is `n`. -/
def operatorsFrom (n : Nat) (ts : List Token) : List (Nat × Operator) :=
  (ts.zipIdx n).filterMap fun e => e.1.operator?.map (e.2, ·)

@[simp] theorem operatorsFrom_nil (n : Nat) : operatorsFrom n [] = [] := rfl

@[simp] theorem operatorsFrom_word_cons (n : Nat) (w : Text) (ts : List Token) :
    operatorsFrom n (.word w :: ts) = operatorsFrom (n + 1) ts := rfl

@[simp] theorem operatorsFrom_operator_cons (n : Nat) (o : Operator) (ts : List Token) :
    operatorsFrom n (.operator o :: ts) = (n, o) :: operatorsFrom (n + 1) ts := rfl

theorem operatorsFrom_map_word_append (n : Nat) (ws : List Text) (ts : List Token) :
    operatorsFrom n (ws.map word ++ ts) = operatorsFrom (n + ws.length) ts := by
  induction ws generalizing n with
  | nil => rfl
  | cons w ws ih =>
      rw [List.map_cons, List.cons_append, operatorsFrom_word_cons, ih, List.length_cons,
        Nat.add_right_comm, Nat.add_assoc]

theorem operatorsFrom_map_word (n : Nat) (ws : List Text) : operatorsFrom n (ws.map word) = [] := by
  have h := operatorsFrom_map_word_append n ws []
  rwa [List.append_nil] at h

/-- The positions are those at which the operators stand. -/
theorem mem_operatorsFrom_zero_iff {ts : List Token} {i : Nat} {o : Operator} :
    (i, o) ∈ operatorsFrom 0 ts ↔ ts[i]? = some (.operator o) := by
  have hoperator : ∀ t : Token, t.operator? = some o ↔ t = .operator o := by
    rintro (w | o')
    · simp [operator?]
    · simp [operator?]
  simp only [operatorsFrom, List.mem_filterMap, Option.map_eq_some_iff, Prod.exists,
    List.mem_zipIdx_iff_getElem?, Prod.mk.injEq]
  constructor
  · rintro ⟨t, j, hj, o', ho', rfl, rfl⟩
    rw [hj, (hoperator t).1 ho']
  · intro h
    exact ⟨_, i, h, o, rfl, rfl, rfl⟩

/-- The scan gives the first operator. -/
theorem redirection?_eq (ts : List Token) :
    redirection? ts =
      (operatorsFrom 0 ts).head?.map fun e => (e.1, e.2.stream, e.2.mode) := by
  obtain ⟨ws, rfl | ⟨o, rest, rfl⟩⟩ := Command.exists_words ts
  · rw [operatorsFrom_map_word, redirection?, Command.splitAtOperator_map_word]
    rfl
  · rw [operatorsFrom_map_word_append, operatorsFrom_operator_cons, redirection?,
      Command.splitAtOperator_operator, Nat.zero_add]
    rfl

theorem map_text_map_word (ws : List Text) : (ws.map word).map text = ws := by
  rw [List.map_map]
  exact List.map_id ws

end Token

namespace Command

open Token

/-- What tokens say whose operators stand at the given positions. -/
def byPositions (ts : List Token) :
    List (Nat × Operator) → Except ParseError (Option Command)
  | [] => .ok (if ts = [] then none else some ⟨ts.map text, none⟩)
  | (0, o) :: _ => .error (.missingCommand o)
  | (_ + 1, _) :: (_, o') :: _ => .error (.unexpectedToken o')
  | [(i + 1, o)] =>
    match ts[i + 2]? with
    | none => .error .unexpectedEnd
    | some t => .ok (some ⟨(ts.take (i + 1)).map text, some ⟨o.stream, o.mode, t.text, i + 1⟩⟩)

/-- The spare words behind a target, unless there is an operator among them. -/
def spareWords : List Token → Except ParseError (List Text)
  | [] => .ok []
  | .operator o :: _ => .error (.unexpectedToken o)
  | .word w :: ts => (spareWords ts).map (w :: ·)

/-- What is read behind an operator with the words in front of it. -/
def assembleBehind (argv : List Text) (i : Nat) (stream : Stream) (mode : WriteMode) :
    List Token → Except ParseError (Option Parsed)
  | [] => .error .unexpectedEnd
  | .operator o :: _ => .error (.unexpectedToken o)
  | .word filename :: ts =>
    (spareWords ts).map fun ignored => some ⟨⟨argv, some ⟨stream, mode, filename, i⟩⟩, ignored⟩

/-- The command that is assembled at the index that the scan gives; none if there is no
operator at this index. -/
def assemble? (ts : List Token) : Option (Except ParseError (Option Parsed)) :=
  match redirection? ts with
  | none => some (.ok (if ts = [] then none else some ⟨⟨ts.map text, none⟩, []⟩))
  | some (i, stream, mode) =>
    match ts[i]? with
    | some (.operator o) =>
      some (if ts.take i = [] then .error (.missingCommand o)
        else assembleBehind ((ts.take i).map text) i stream mode (ts.drop (i + 1)))
    | _ => none

theorem spareWords_map_word (ws : List Text) : spareWords (ws.map word) = .ok ws := by
  induction ws with
  | nil => rfl
  | cons w ws ih => rw [List.map_cons, spareWords, ih]; rfl

theorem spareWords_operator (ws : List Text) (o : Operator) (rest : List Token) :
    spareWords (ws.map word ++ operator o :: rest) = .error (.unexpectedToken o) := by
  induction ws with
  | nil => rfl
  | cons w ws ih => rw [List.map_cons, List.cons_append, spareWords, ih]; rfl

/-- Reading behind the operator gives what reading the whole list does. -/
theorem assembleBehind_eq {argv : List Text} (h : argv ≠ []) (o : Operator) (rest : List Token) :
    assembleBehind argv argv.length o.stream o.mode rest =
      parse (argv.map word ++ operator o :: rest) := by
  rcases rest with _ | ⟨filename | o', more⟩
  · rw [parse_operator_end h]
    rfl
  · obtain ⟨ws, rfl | ⟨o', rest', rfl⟩⟩ := exists_words more
    · rw [parse_target_words h, assembleBehind, spareWords_map_word]
      rfl
    · rw [parse_target_operator h, assembleBehind, spareWords_operator]
      rfl
  · rw [parse_operator_operator h]
    rfl

/-- The assembly finds the operator, and gives what the reading from the front gives. -/
theorem assemble?_eq_some (ts : List Token) : assemble? ts = some (parse ts) := by
  obtain ⟨argv, rfl | ⟨o, rest, rfl⟩⟩ := exists_words ts
  · rw [assemble?, redirection?_eq, operatorsFrom_map_word]
    cases argv with
    | nil => rfl
    | cons w ws =>
        rw [parse_map_word (List.cons_ne_nil w ws)]
        simp only [map_text_map_word]
        rfl
  · have hscan : redirection? (argv.map word ++ operator o :: rest) =
        some (argv.length, o.stream, o.mode) := by
      rw [redirection?_eq, operatorsFrom_map_word_append, Nat.zero_add]
      rfl
    have hindex : (argv.map word ++ operator o :: rest)[argv.length]? = some (operator o) := by
      simp
    have htake : (argv.map word ++ operator o :: rest).take argv.length = argv.map word := by
      simp
    have hdrop : (argv.map word ++ operator o :: rest).drop (argv.length + 1) = rest := by
      rw [← List.drop_drop]
      simp
    simp only [assemble?, hscan, hindex, htake, hdrop, map_text_map_word, List.map_eq_nil_iff]
    rcases eq_or_ne argv [] with rfl | hargv
    · rw [List.map_nil, List.nil_append, parse_operator_cons, if_pos rfl]
    · rw [if_neg hargv, assembleBehind_eq hargv]

theorem ofTokens_eq_byPositions (ts : List Token) :
    ofTokens ts = byPositions ts (operatorsFrom 0 ts) := by
  obtain ⟨argv, rfl | ⟨o, rest, rfl⟩⟩ := exists_words ts
  · rw [operatorsFrom_map_word, byPositions, map_text_map_word, ofTokens]
    cases argv with
    | nil => rfl
    | cons w ws => rw [parse_map_word (List.cons_ne_nil w ws)]; rfl
  · rw [operatorsFrom_map_word_append, operatorsFrom_operator_cons, Nat.zero_add, ofTokens]
    cases argv with
    | nil =>
        rw [List.map_nil, List.nil_append, parse_operator_cons]
        rfl
    | cons w ws =>
        have hargv : w :: ws ≠ [] := List.cons_ne_nil w ws
        have hbehind : ((w :: ws).map word ++ operator o :: rest)[ws.length + 2]? = rest[0]? := by
          rw [List.getElem?_append_right (by simp)]
          simp
        have htake : ((w :: ws).map word ++ operator o :: rest).take (ws.length + 1) =
            (w :: ws).map word := by
          simp
        rcases rest with _ | ⟨filename | o', more⟩
        · rw [parse_operator_end hargv, operatorsFrom_nil, List.length_cons, byPositions, hbehind]
          rfl
        · rw [operatorsFrom_word_cons]
          obtain ⟨spare, rfl | ⟨o', rest', rfl⟩⟩ := exists_words more
          · rw [parse_target_words hargv, operatorsFrom_map_word, List.length_cons, byPositions,
              hbehind, htake, map_text_map_word]
            rfl
          · rw [parse_target_operator hargv, operatorsFrom_map_word_append,
              operatorsFrom_operator_cons]
            rfl
        · rw [parse_operator_operator hargv, operatorsFrom_operator_cons]
          rfl

/-- The words of a command are the tokens at the front of its list, so none of them comes
from an operator. -/
theorem take_length_argv {ts : List Token} {c : Command} (h : ofTokens ts = .ok (some c)) :
    ts.take c.argv.length = c.argv.map word := by
  obtain ⟨ignored, hread⟩ := ofTokens_eq_ok_some_iff.1 h
  cases hread with
  | plain hargv =>
      dsimp only
      rw [List.take_of_length_le (by simp)]
  | redirected hargv o filename ignored => simp

/-- The operators that stand in a token list decide, with their positions, what it gives,
whatever its words are. The assembly by index gives the same and is never without an
operator at its index, and the words of a command are the tokens at the front. -/
theorem assemble?_eq_some_and_ofTokens_eq (ts : List Token) :
    assemble? ts = some (parse ts) ∧
      ofTokens ts = byPositions ts (operatorsFrom 0 ts) ∧
      (∀ i o, (i, o) ∈ operatorsFrom 0 ts ↔ ts[i]? = some (operator o)) ∧
      ∀ c, ofTokens ts = .ok (some c) → ts.take c.argv.length = c.argv.map word := by
  refine ⟨assemble?_eq_some ts, ofTokens_eq_byPositions ts, ?_, ?_⟩
  · intro i o
    exact mem_operatorsFrom_zero_iff
  · intro c h
    exact take_length_argv h

/-- A word that looks like an operator is none, and a second operator counts wherever it
stands. -/
example : ofTokens [.word ">".toList, .operator ⟨none, .append⟩, .word [], .word "a".toList,
    .operator ⟨some .err, .truncate⟩] = .error (.unexpectedToken ⟨some .err, .truncate⟩) := by rfl

end Command

end CommandShell
