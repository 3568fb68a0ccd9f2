import CommandShell.Operator

/-!
# Tokens

A line is a sequence of words and redirection operators. A word is kept without its quoting, so one
that looks like an operator is still a word.
-/

namespace CommandShell

inductive Token where
  | word (w : Text)
  | operator (o : Operator)
  deriving DecidableEq, Repr

namespace Token

/-- The word itself, or the written form of the operator. -/
def text : Token → Text
  | .word w => w
  | .operator o => o.text

@[simp] theorem text_word (w : Text) : (word w).text = w := rfl

@[simp] theorem text_operator (o : Operator) : (operator o).text = o.text := rfl

def operator? : Token → Option Operator
  | .word _ => none
  | .operator o => some o

def joined (ts : List Token) : Text := Text.join [' '] (ts.map text)

end Token

end CommandShell
