import CommandShell.Text.Alphanumeric
import CommandShell.Text.WhiteSpace

/-!
# Elements of patterns

The smallest parts of a pattern, and the switches that say how they are meant at a place. Patterns
are matched without tables of characters: where a switch asks for whole Unicode, nothing is known of
the case of a character nor of its class; where it asks for bytes, nothing may match a part of a
character. Elements for which this leaves no meaning are not supported.
-/

namespace CommandShell

namespace Log

namespace Pattern

/-- The switches that decide about the meaning of a place. -/
structure Switches where
  /-- The case of letters does not count. -/
  anyCase : Bool
  /-- Characters are meant, and not bytes. -/
  unicode : Bool
  /-- White space and comments do not count. -/
  spaced : Bool
  deriving DecidableEq, Repr

namespace Switches

def initial : Switches := ⟨false, true, false⟩

/-- The letters of the switches; not all of them matter here. -/
def letters : List Char := ['i', 'm', 's', 'U', 'u', 'R', 'x']

/-- Behind this sign switches are turned off. -/
def offSign : Char := '-'

/-- The text turns switches on and off, each at most once. -/
def isChange (t : Text) : Bool :=
  t.all (fun c => c = offSign || letters.contains c) && t.Nodup && t.getLast? ≠ some offSign

def changed (change : Text) (letter : Char) (old : Bool) : Bool :=
  if (change.takeWhile (· ≠ offSign)).contains letter then true
  else if change.contains letter then false
  else old

def change (s : Switches) (t : Text) : Switches where
  anyCase := changed t 'i' s.anyCase
  unicode := changed t 'u' s.unicode
  spaced := changed t 'x' s.spaced

end Switches

/-- Leaves out white space and comments, which reach to the end of their lines; `comment` says that
one has begun. -/
def skip (comment : Bool) : Text → Text
  | [] => []
  | c :: t =>
    if comment then skip (c ≠ '\n') t
    else if c = '#' then skip true t
    else if Text.isWhiteSpace c then skip false t
    else c :: t

/-- Leaves out what does not count. -/
def skipSpace (s : Switches) (t : Text) : Text := if s.spaced then skip false t else t

/-- The next character that counts. Of comments only the sign of one is passed over. -/
def peekSpace (s : Switches) (t : Text) : Option Char :=
  if s.spaced then
    let behind := match Text.trimStart t with
      | '#' :: u => Text.trimStart u
      | u => u
    behind.head?.or t.head?
  else t.head?

inductive Element where
  | literal (c : Char)
  /-- A character by its code of two digits, which is a byte where bytes are meant. -/
  | code (c : Char)
  /-- One of the classes with a letter of their own. -/
  | letterClass (negated : Bool)
  /-- Any character of a line. -/
  | dot
  /-- The start or the end of a line or of the whole. -/
  | anchor
  | wordBoundary
  deriving DecidableEq, Repr

namespace Element

/-- The element has a meaning outside of sets. -/
def isSupported (s : Switches) : Element → Bool
  | .literal _ => !(s.anyCase && s.unicode)
  | .code c => if s.unicode then !s.anyCase else c.toNat < 0x80
  | .letterClass negated => !s.unicode && !negated
  | .dot => s.unicode
  | .anchor => true
  | .wordBoundary => !s.unicode

/-- The character that the element stands for in a set. -/
def member? (s : Switches) : Element → Option Char
  | .literal c | .code c =>
    if (if s.unicode then !s.anyCase else c.toNat < 0x80) then some c else none
  | _ => none

/-- The element may stand in a set. -/
def fitsSet (s : Switches) (e : Element) : Bool :=
  match e with
  | .letterClass negated => !s.unicode && !negated
  | e => (e.member? s).isSome

end Element

def hexValue? (c : Char) : Option Nat :=
  if c.isDigit then some (c.toNat - '0'.toNat)
  else if 'a' ≤ c ∧ c ≤ 'f' then some (c.toNat - 'a'.toNat + 10)
  else if 'A' ≤ c ∧ c ≤ 'F' then some (c.toNat - 'A'.toNat + 10)
  else none

/-- The number of so many digits in base sixteen, behind a number that was read before. -/
def hexDigits (s : Switches) : Nat → Nat → Text → Option (Nat × Text)
  | 0, value, t => some (value, t)
  | n + 1, value, t =>
    match skipSpace s t with
    | [] => none
    | c :: t => (hexValue? c).bind fun d => hexDigits s n (16 * value + d) t

/-- The character with a code of so many digits. -/
def coded (s : Switches) (digits : Nat) (t : Text) : Option (Char × Text) :=
  match hexDigits s digits 0 t with
  | none => none
  | some (value, t) => if value.isValidChar then some (Char.ofNat value, t) else none

/-- The letters of the classes, of which the capital ones are negated. -/
def classLetters : List Char := ['d', 's', 'w', 'D', 'S', 'W']

def controlLetters : List Char := ['a', 'f', 't', 'n', 'r', 'v']

/-- Signs that stand for themselves behind a backslash. -/
def isPlainSign (c : Char) : Bool :=
  c.toNat < 0x80 && !c.isAlphanum && c ≠ '<' && c ≠ '>'

def escape (s : Switches) : Text → Option (Element × Text)
  | [] => none
  | c :: t =>
    if c = 'x' then (coded s 2 t).map fun (d, t) => (.code d, t)
    else if c = 'u' then (coded s 4 t).map fun (d, t) => (.literal d, t)
    else if c = 'U' then (coded s 8 t).map fun (d, t) => (.literal d, t)
    else if classLetters.contains c then some (.letterClass c.isUpper, t)
    else if isPlainSign c || controlLetters.contains c then some (.literal c, t)
    else if c = 'A' ∨ c = 'z' then some (.anchor, t)
    else if ['b', 'B', '<', '>'].contains c then some (.wordBoundary, t)
    else none

end Pattern

end Log

end CommandShell
