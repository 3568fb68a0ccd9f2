import CommandShell.Text

/-!
# Text as bytes

The UTF-8 form of a text, and reading bytes that need not be one. Reading never fails: every maximal
part that starts a character and does not finish it, and every byte that starts none, is read as one
replacement character U+FFFD.
-/

namespace CommandShell

namespace Text

def toUtf8 (t : Text) : List UInt8 := t.flatMap String.utf8EncodeChar

@[simp] theorem toUtf8_nil : toUtf8 [] = [] := rfl

theorem toUtf8_cons (c : Char) (t : Text) :
    toUtf8 (c :: t) = String.utf8EncodeChar c ++ toUtf8 t := rfl

def utf8Size : Text → Nat
  | [] => 0
  | c :: t => c.utf8Size + utf8Size t

@[simp] theorem utf8Size_nil : utf8Size [] = 0 := rfl

theorem utf8Size_cons (c : Char) (t : Text) : utf8Size (c :: t) = c.utf8Size + utf8Size t := rfl

theorem utf8Size_append (s t : Text) : utf8Size (s ++ t) = utf8Size s + utf8Size t := by
  induction s with
  | nil => simp
  | cons c s ih => simp [utf8Size_cons, ih]; omega

/-- Stands for bytes that are no character. -/
def replacement : Char := '\uFFFD'

/-- The byte continues a character that was begun. -/
def isContinuation (b : UInt8) : Bool := 0x80 ≤ b && b ≤ 0xBF

/-- The first continuation byte that the leading byte `b` of three admits: it leaves out the longer
forms of shorter characters and the surrogates. -/
def isSecondOfThree (b second : UInt8) : Bool :=
  (if b == 0xE0 then 0xA0 else 0x80) ≤ second && second ≤ (if b == 0xED then 0x9F else 0xBF)

/-- The first continuation byte that the leading byte `b` of four admits: it leaves out the longer
forms of shorter characters and what lies above U+10FFFF. -/
def isSecondOfFour (b second : UInt8) : Bool :=
  (if b == 0xF0 then 0x90 else 0x80) ≤ second && second ≤ (if b == 0xF4 then 0x8F else 0xBF)

def continuationBits (b : UInt8) : Nat := b.toNat % 0x40

def decodeTwo (b c : UInt8) : Char :=
  Char.ofNat (b.toNat % 0x20 * 0x40 + continuationBits c)

def decodeThree (b c d : UInt8) : Char :=
  Char.ofNat ((b.toNat % 0x10 * 0x40 + continuationBits c) * 0x40 + continuationBits d)

def decodeFour (b c d e : UInt8) : Char :=
  Char.ofNat (((b.toNat % 0x08 * 0x40 + continuationBits c) * 0x40 + continuationBits d) * 0x40 +
    continuationBits e)

/-- The text that the bytes spell, with a replacement character for each part that spells none. -/
def ofUtf8Lossy : List UInt8 → Text
  | [] => []
  | b :: rest =>
    if b < 0x80 then Char.ofNat b.toNat :: ofUtf8Lossy rest
    else if 0xC2 ≤ b && b ≤ 0xDF then
      match rest with
      | [] => [replacement]
      | c :: rest' =>
        if isContinuation c then decodeTwo b c :: ofUtf8Lossy rest'
        else replacement :: ofUtf8Lossy (c :: rest')
    else if 0xE0 ≤ b && b ≤ 0xEF then
      match rest with
      | [] => [replacement]
      | c :: rest' =>
        if isSecondOfThree b c then
          match rest' with
          | [] => [replacement]
          | d :: rest'' =>
            if isContinuation d then decodeThree b c d :: ofUtf8Lossy rest''
            else replacement :: ofUtf8Lossy (d :: rest'')
        else replacement :: ofUtf8Lossy (c :: rest')
    else if 0xF0 ≤ b && b ≤ 0xF4 then
      match rest with
      | [] => [replacement]
      | c :: rest' =>
        if isSecondOfFour b c then
          match rest' with
          | [] => [replacement]
          | d :: rest'' =>
            if isContinuation d then
              match rest'' with
              | [] => [replacement]
              | e :: rest''' =>
                if isContinuation e then decodeFour b c d e :: ofUtf8Lossy rest'''
                else replacement :: ofUtf8Lossy (e :: rest''')
            else replacement :: ofUtf8Lossy (d :: rest'')
        else replacement :: ofUtf8Lossy (c :: rest')
    else replacement :: ofUtf8Lossy rest

end Text

end CommandShell
