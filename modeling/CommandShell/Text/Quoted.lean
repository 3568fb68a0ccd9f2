import CommandShell.Text.Unprintable

/-!
# Quoted texts

A text between double quotes, in which quotes, backslashes and the usual controls are written with a
backslash, and every other character that is not shown by its code point.
-/

namespace CommandShell

namespace Text

/-- The code point of a character, as it is written in a quoted text. -/
def codePoint (c : Char) : Text :=
  "\\u\x7b".toList ++ Nat.toDigits 16 c.toNat ++ "\x7d".toList

/-- A character as it is written in a quoted text. -/
def escaped (c : Char) : Text :=
  if c = '\x00' then ['\\', '0']
  else if c = '\t' then ['\\', 't']
  else if c = '\r' then ['\\', 'r']
  else if c = '\n' then ['\\', 'n']
  else if c = '\\' then ['\\', '\\']
  else if c = '"' then ['\\', '"']
  else if isUnprintable c then codePoint c
  else [c]

def quoted (t : Text) : Text := '"' :: t.flatMap escaped ++ ['"']

end Text

end CommandShell
