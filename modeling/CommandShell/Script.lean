import CommandShell.Path
import CommandShell.Text.Utf8

/-!
# Scripts

A text can be started like a program if it begins with a line that names the program that reads it,
its interpreter. Only the first bytes of the text are looked at; a shorter text counts as if zeros
followed it. If the line goes on behind these bytes its argument is cut off, while a name that might
be cut off is none. Main statement: a text that does not begin with the mark names no interpreter
(`interpreter?_of_unmarked`).
-/

namespace CommandShell

structure Interpreter where
  path : Path
  argument : Option Text
  deriving DecidableEq, Repr

namespace Script

/-- The mark at the start of a script that names its interpreter. -/
def mark : List UInt8 := Text.toUtf8 "#!".toList

def headSize : Nat := 256

def head (t : Text) : List UInt8 :=
  let bytes := (Text.toUtf8 t).take headSize
  bytes ++ List.replicate (headSize - bytes.length) 0

def newline : UInt8 := 10

def isBlank (b : UInt8) : Bool := b == 32 || b == 9

def endsName (b : UInt8) : Bool := isBlank b || b == 0

def trimEnd (bs : List UInt8) : List UInt8 := (bs.reverse.dropWhile isBlank).reverse

/-- The line behind the mark without blanks at its end. Without a newline there must be an end of
the name, and the last byte does not count. -/
def line? (bs : List UInt8) : Option (List UInt8) :=
  if bs.contains newline then some (trimEnd (bs.takeWhile (· != newline)))
  else if (bs.dropWhile isBlank).any endsName then some (trimEnd bs.dropLast)
  else none

/-- The interpreter that a line names: its name, and one argument up to the end of the line or the
first zero. -/
def ofLine? (bs : List UInt8) : Option Interpreter :=
  match bs.dropWhile isBlank with
  | [] => none
  | named =>
    let behind := named.dropWhile (!endsName ·)
    some {
      path := Text.ofUtf8Lossy (named.takeWhile (!endsName ·))
      argument :=
        if behind.head?.any isBlank then
          some (Text.ofUtf8Lossy ((behind.dropWhile isBlank).takeWhile (· != 0)))
        else none }

def interpreter? (t : Text) : Option Interpreter :=
  if mark.isPrefixOf (head t) then (line? ((head t).drop mark.length)).bind ofLine? else none

theorem interpreter?_of_unmarked {t : Text} (h : mark.isPrefixOf (head t) = false) :
    interpreter? t = none := by
  simp [interpreter?, h]

end Script

end CommandShell
