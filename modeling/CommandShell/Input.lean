import CommandShell.Text.Utf8

/-!
# The standard input

The shell takes its standard input in blocks and reads lines from what it has taken; a program that
it starts sees only the bytes behind the last block. A block can end within a character. Main
statements: a line and what it leaves make up what there was (`append_readLine`), and a line does
not depend on the blocks (`readLine_fst`).
-/

namespace CommandShell

/-- What the shell has not read yet. -/
structure Input where
  text : Text
  /-- How many bytes of the text the shell has taken. The last block counts in full. -/
  ahead : Nat
  /-- Bytes that begin a character and do not finish it follow the text. -/
  torn : Bool
  deriving DecidableEq, Repr

namespace Input

def blockSize : Nat := 8192

def ofText (t : Text) : Input := ⟨t, 0, false⟩

/-- All that the shell can still read. -/
def all (i : Input) : Text := i.text ++ if i.torn then [Text.replacement] else []

/-- What a program sees. -/
def unread (i : Input) : Text := Text.ofUtf8Lossy ((Text.toUtf8 i.text).drop i.ahead)

def exhausted : Input := ⟨[], 0, false⟩

/-- The first characters of a text that fit into so many bytes. -/
def fitting : Nat → Text → Text
  | _, [] => []
  | n, c :: t => if c.utf8Size ≤ n then c :: fitting (n - c.utf8Size) t else []

/-- The input after a program has read it to its end: the bytes that the shell has taken are
left. -/
def drained (i : Input) : Input :=
  let kept := fitting i.ahead i.text
  { i with
    text := kept
    torn := i.torn || (kept ≠ i.text && Text.utf8Size kept < i.ahead) }

@[simp] theorem all_ofText (t : Text) : (ofText t).all = t := by simp [ofText, all]

/-- How many bytes are taken beyond a line of `n` bytes, of which `a` had been taken before. -/
def aheadAfter (a n : Nat) : Nat :=
  if n ≤ a then a - n else (blockSize - (n - a) % blockSize) % blockSize

/-- The part of a text up to its first newline, which it includes, and the part behind. -/
def cutLine : Text → Text × Text
  | [] => ([], [])
  | c :: t =>
    if c = '\n' then (['\n'], t)
    else (c :: (cutLine t).1, (cutLine t).2)

theorem append_cutLine (t : Text) : (cutLine t).1 ++ (cutLine t).2 = t := by
  induction t with
  | nil => rfl
  | cons c t ih =>
    unfold cutLine
    split
    · simp_all
    · simp [ih]

theorem cutLine_append_of_not_mem {s : Text} (h : '\n' ∉ s) (t : Text) :
    cutLine (s ++ t) = (s ++ (cutLine t).1, (cutLine t).2) := by
  induction s with
  | nil => rfl
  | cons c s ih =>
    simp only [List.mem_cons, not_or] at h
    simp [cutLine, Ne.symm h.1, ih h.2]

/-- The next line is not whole: it ends within a character. -/
def endsTorn (i : Input) : Bool := i.torn && !i.text.contains '\n'

/-- The next line with its newline, and what is left behind it. The line is empty at the end, and
the last line may lack the newline. -/
def readLine (i : Input) : Text × Input :=
  match cutLine i.text with
  | (line, rest) =>
    (line, { i with text := rest, ahead := aheadAfter i.ahead (Text.utf8Size line) })

/-- The line that is read does not depend on the blocks. -/
theorem readLine_fst (i : Input) : i.readLine.1 = (cutLine i.text).1 := rfl

theorem text_readLine_snd (i : Input) : i.readLine.2.text = (cutLine i.text).2 := rfl

theorem torn_readLine_snd (i : Input) : i.readLine.2.torn = i.torn := rfl

/-- A line and what it leaves make up the input. -/
theorem append_readLine (i : Input) : i.readLine.1 ++ i.readLine.2.all = i.all := by
  rw [all, all, ← List.append_assoc, torn_readLine_snd, readLine_fst, text_readLine_snd,
    append_cutLine]

theorem fitting_of_utf8Size_le {n : Nat} {t : Text} (h : Text.utf8Size t ≤ n) :
    fitting n t = t := by
  induction t generalizing n with
  | nil => rfl
  | cons c t ih =>
    rw [Text.utf8Size_cons] at h
    rw [fitting, if_pos (by omega), ih (by omega)]

/-- A program takes nothing away from an input that the shell has taken to its end. -/
theorem drained_of_utf8Size_le {i : Input} (h : Text.utf8Size i.text ≤ i.ahead) :
    i.drained = i := by
  simp [drained, fitting_of_utf8Size_le h]

end Input

end CommandShell
