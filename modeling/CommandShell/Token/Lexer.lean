import CommandShell.Token

/-!
# From a line to its tokens

The lexer reads a line from left to right and carries along how the present place is quoted and the
word begun so far. Outside quotes a blank ends the word, a backslash takes the next character
literally, and an angle bracket makes an operator, together with a digit `1` or `2` right in front
of it and a second bracket right behind it. Between single quotes every character stands for itself;
between double quotes a backslash is dropped in front of a double quote or a backslash only. Quoted
and bare parts that touch make one word, and an empty word is no token.

A line is refused if it ends inside quotes or right after a bare backslash.
-/

namespace CommandShell

inductive LexError where
  | unfinishedQuote
  | trailingBackslash
  deriving DecidableEq, Repr

namespace LexError

def message : LexError → Text
  | .unfinishedQuote => "syntax error: unterminated quote".toList
  | .trailingBackslash => "syntax error: trailing backslash".toList

end LexError

/-- How a place on a line is quoted. -/
inductive Quoting where
  | bare
  | single
  | double
  deriving DecidableEq, Repr

namespace Token

/-- Words are separated by spaces and tabs. -/
def isBlank (c : Char) : Bool := c = ' ' || c = '\t'

/-- The tokens after the end of the word begun, whose characters stand in reverse. -/
def endWord (w : Text) (ts : List Token) : List Token :=
  match w with
  | [] => ts
  | c :: w => word (c :: w).reverse :: ts

@[simp] theorem endWord_nil (ts : List Token) : endWord [] ts = ts := rfl

@[simp] theorem endWord_cons (c : Char) (w : Text) (ts : List Token) :
    endWord (c :: w) ts = word (w.reverse ++ [c]) :: ts := by
  simp [endWord]

/-- The tokens of the rest of a line, given the quoting at its start and the word begun before it,
in reverse. -/
def scan : Quoting → Text → Text → Except LexError (List Token)
  | .bare, w, [] => .ok (endWord w [])
  | .single, _, [] => .error .unfinishedQuote
  | .double, _, [] => .error .unfinishedQuote
  | .single, w, c :: t => if c = '\'' then scan .bare w t else scan .single (c :: w) t
  | .double, w, c :: t =>
    if c = '"' then scan .bare w t
    else if c = '\\' then
      match t with
      | [] => .error .unfinishedQuote
      | d :: t' =>
        if d = '"' ∨ d = '\\' then scan .double (d :: w) t' else scan .double ('\\' :: w) (d :: t')
    else scan .double (c :: w) t
  | .bare, w, c :: t =>
    if c = '"' then scan .double w t
    else if c = '\'' then scan .single w t
    else if c = '\\' then
      match t with
      | [] => .error .trailingBackslash
      | d :: t' => scan .bare (d :: w) t'
    else if isBlank c then (scan .bare [] t).map (endWord w)
    else if c = '>' then
      match t with
      | '>' :: t' => (scan .bare [] t').map fun ts => endWord w (operator ⟨none, .append⟩ :: ts)
      | t' => (scan .bare [] t').map fun ts => endWord w (operator ⟨none, .truncate⟩ :: ts)
    else
      match selector? c, t with
      | some s, '>' :: '>' :: t' =>
        (scan .bare [] t').map fun ts => endWord w (operator ⟨some s, .append⟩ :: ts)
      | some s, '>' :: t' =>
        (scan .bare [] t').map fun ts => endWord w (operator ⟨some s, .truncate⟩ :: ts)
      | _, t' => scan .bare (c :: w) t'
where
  selector? (c : Char) : Option Stream :=
    if c = '1' then some .out else if c = '2' then some .err else none

def ofLine (line : Text) : Except LexError (List Token) := scan .bare [] line

end Token

end CommandShell
