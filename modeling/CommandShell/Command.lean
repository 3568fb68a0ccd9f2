import CommandShell.Token

/-!
# Simple commands

The tokens of a line make one command: the words before the first operator are its arguments, the
first of them its name, and the word behind the operator names the target of its redirection. Words
after the target are ignored. Which outcome a token list has is decided by the positions of its
operators alone.
-/

namespace CommandShell

structure Redirection where
  stream : Stream
  mode : WriteMode
  filename : Text
  /-- The position of the operator among the tokens, which is the number of words before it. -/
  operatorIndex : Nat
  deriving DecidableEq, Repr

/-- A command that is ready for dispatch. -/
structure Command where
  /-- The name of the command, followed by its arguments. -/
  argv : List Text
  redirection : Option Redirection
  deriving DecidableEq, Repr

inductive ParseError where
  /-- A second operator, or one in the place of the target. -/
  | unexpectedToken (o : Operator)
  /-- The line ends behind the operator. -/
  | unexpectedEnd
  /-- Nothing stands in front of the operator. -/
  | missingCommand (o : Operator)
  deriving DecidableEq, Repr

namespace ParseError

def message : ParseError → Text
  | .unexpectedToken o => "syntax error near unexpected token `".toList ++ o.text ++ ['\'']
  | .unexpectedEnd => "syntax error near unexpected token `newline'".toList
  | .missingCommand o => "syntax error: missing command before `".toList ++ o.text ++ ['\'']

end ParseError

namespace Token

/-- The words before the first operator; the operator and the tokens behind it, if there is one. -/
def splitAtOperator : List Token → List Text × Option (Operator × List Token)
  | [] => ([], none)
  | .word w :: ts => (w :: (splitAtOperator ts).1, (splitAtOperator ts).2)
  | .operator o :: ts => ([], some (o, ts))

/-- Where the first operator stands, which stream it diverts and how its target is opened. -/
def redirection? (ts : List Token) : Option (Nat × Stream × WriteMode) :=
  match splitAtOperator ts with
  | (_, none) => none
  | (ws, some (o, _)) => some (ws.length, o.stream, o.mode)

@[simp] theorem splitAtOperator_nil : splitAtOperator [] = ([], none) := rfl

@[simp] theorem splitAtOperator_operator_cons (o : Operator) (ts : List Token) :
    splitAtOperator (.operator o :: ts) = ([], some (o, ts)) := rfl

theorem splitAtOperator_word_cons (w : Text) (ts : List Token) :
    splitAtOperator (.word w :: ts) = (w :: (splitAtOperator ts).1, (splitAtOperator ts).2) := rfl

/-- There is no operator exactly if all tokens are words. -/
theorem splitAtOperator_eq_none_iff {ts : List Token} {ws : List Text} :
    splitAtOperator ts = (ws, none) ↔ ts = ws.map word := by
  induction ts generalizing ws with
  | nil => simp [eq_comm]
  | cons t ts ih =>
    cases t with
    | operator o => cases ws <;> simp
    | word w =>
      cases ws with
      | nil => simp [splitAtOperator_word_cons]
      | cons w' ws => simp [splitAtOperator_word_cons, ← ih, Prod.ext_iff, and_assoc]

/-- The first operator is the one behind leading words. -/
theorem splitAtOperator_eq_some_iff {ts : List Token} {ws : List Text} {o : Operator}
    {rest : List Token} :
    splitAtOperator ts = (ws, some (o, rest)) ↔ ts = ws.map word ++ operator o :: rest := by
  induction ts generalizing ws with
  | nil => simp
  | cons t ts ih =>
    cases t with
    | operator o' => cases ws <;> simp
    | word w =>
      cases ws with
      | nil => simp [splitAtOperator_word_cons]
      | cons w' ws => simp [splitAtOperator_word_cons, ← ih, Prod.ext_iff, and_assoc]

end Token

namespace Command

/-- A command, with the words that its line had to spare. -/
structure Parsed where
  command : Command
  ignored : List Text
  deriving DecidableEq, Repr

/-- The command that tokens make, or none for an empty list. -/
def parse (ts : List Token) : Except ParseError (Option Parsed) :=
  match Token.splitAtOperator ts with
  | ([], none) => .ok none
  | (argv, none) => .ok (some ⟨⟨argv, none⟩, []⟩)
  | ([], some (o, _)) => .error (.missingCommand o)
  | (_, some (_, [])) => .error .unexpectedEnd
  | (_, some (_, .operator o :: _)) => .error (.unexpectedToken o)
  | (argv, some (o, .word filename :: more)) =>
    match Token.splitAtOperator more with
    | (_, some (o', _)) => .error (.unexpectedToken o')
    | (ignored, none) =>
      .ok (some ⟨⟨argv, some ⟨o.stream, o.mode, filename, argv.length⟩⟩, ignored⟩)

/-- The command that tokens make, or none for an empty list. -/
def ofTokens (ts : List Token) : Except ParseError (Option Command) :=
  (parse ts).map (Option.map Parsed.command)

end Command

end CommandShell
