import CommandShell.Text

/-!
# White space

The characters with the property `White_Space` of the Unicode standard, and trimming them off the
ends of a text. What separates words on a line is less than this: see `Token.isBlank`.
-/

namespace CommandShell

namespace Text

def isWhiteSpace (c : Char) : Bool :=
  let n := c.toNat
  (0x09 ≤ n && n ≤ 0x0D) || n == 0x20 || n == 0x85 || n == 0xA0 || n == 0x1680 ||
    (0x2000 ≤ n && n ≤ 0x200A) || n == 0x2028 || n == 0x2029 || n == 0x202F || n == 0x205F ||
    n == 0x3000

def trimStart (t : Text) : Text := t.dropWhile isWhiteSpace

def trimEnd (t : Text) : Text := (t.reverse.dropWhile isWhiteSpace).reverse

def trim (t : Text) : Text := trimEnd (trimStart t)

/-- Nothing but white space, or nothing at all. -/
def isAllWhiteSpace (t : Text) : Bool := t.all isWhiteSpace

end Text

end CommandShell
