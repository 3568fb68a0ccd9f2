import CommandShell.Log.Pattern.Element

/-!
# Sets of characters in patterns

A set stands in brackets: characters, ranges, named classes and further sets, and operations between
two such parts. It is read only to find out where it ends, whether it has a meaning, and how deeply
it is nested.
-/

namespace CommandShell

namespace Log

namespace Pattern

/-- The depth of several parts side by side: one more than that of the deepest, and that of a single
part. -/
def jointDepth : List Nat → Nat
  | [] => 0
  | [d] => d
  | ds => ds.foldl max 0 + 1

structure OpenSet where
  /-- Nothing but hyphens was read. -/
  atStart : Bool
  /-- The depths of the parts behind the last operation. -/
  parts : List Nat
  /-- The depth of what stands before the last operation. -/
  before : Option Nat
  deriving DecidableEq, Repr

namespace OpenSet

def empty : OpenSet := ⟨true, [], none⟩

def push (o : OpenSet) (depth : Nat) : OpenSet := { o with parts := depth :: o.parts }

/-- The depth of all that was read. -/
def depth (o : OpenSet) : Nat :=
  match o.before with
  | none => jointDepth o.parts
  | some d => max d (jointDepth o.parts) + 1

def operation (o : OpenSet) : OpenSet := ⟨false, [], some o.depth⟩

end OpenSet

/-- The names of the classes that stand between colons. -/
def classNames : List Text :=
  ["alnum".toList, "alpha".toList, "ascii".toList, "blank".toList, "cntrl".toList, "digit".toList,
    "graph".toList, "lower".toList, "print".toList, "punct".toList, "space".toList, "upper".toList,
    "word".toList, "xdigit".toList]

/-- A named class behind its bracket: whether it is negated, and the text behind it. -/
def namedClass? : Text → Option (Bool × Text)
  | ':' :: t =>
    let (negated, t) := match t with
      | '^' :: t => (true, t)
      | t => (false, t)
    match t.dropWhile (· ≠ ':') with
    | ':' :: ']' :: rest =>
      if classNames.contains (t.takeWhile (· ≠ ':')) then some (negated, rest) else none
    | _ => none
  | _ => none

def setElement (s : Switches) : Text → Option (Element × Text)
  | [] => none
  | '\\' :: t => escape s t
  | c :: t => some (.literal c, t)

/-- Reads one element or a range and gives the text behind it. -/
def setRange (s : Switches) (t : Text) : Option Text :=
  match setElement s t with
  | none => none
  | some (e, t) =>
    match skipSpace s t with
    | '-' :: u =>
      if peekSpace s u = some ']' ∨ peekSpace s u = some '-' then
        if e.fitsSet s then some ('-' :: u) else none
      else
        match setElement s (skipSpace s u) with
        | none => none
        | some (e', rest) =>
          match e.member? s, e'.member? s with
          | some c, some c' => if c ≤ c' then some rest else none
          | _, _ => none
    | u => if e.fitsSet s then some u else none

/-- Reads a set behind its bracket, inside of others, and gives its depth and the text behind it.
The bound is one on the number of parts that are left. -/
def readSet (s : Switches) : Nat → OpenSet → List OpenSet → Text → Option (Nat × Text)
  | 0, _, _, _ => none
  | bound + 1, o, outer, t =>
    let entered := { o with atStart := false }
    match skipSpace s t with
    | [] => none
    | '-' :: t =>
      if o.atStart then
        if (Element.literal '-').fitsSet s then readSet s bound (o.push 0) outer t else none
      else if t.head? = some '-' then readSet s bound o.operation outer t.tail
      else (setRange s ('-' :: t)).bind (readSet s bound (entered.push 0) outer)
    | ']' :: t =>
      if o.atStart ∧ o.parts = [] then
        if (Element.literal ']').fitsSet s then readSet s bound (entered.push 0) outer t else none
      else
        match outer with
        | [] => some (o.depth + 1, t)
        | o' :: outer => readSet s bound (o'.push (o.depth + 1)) outer t
    | '[' :: t =>
      match namedClass? t with
      | some (negated, t) =>
        if (if s.unicode then !s.anyCase else !negated) then
          readSet s bound (entered.push 0) outer t
        else none
      | none =>
        match skipSpace s t with
        | '^' :: t => if s.unicode then readSet s bound .empty (entered :: outer) t else none
        | t => readSet s bound .empty (entered :: outer) t
    | c :: t =>
      if (c = '&' ∨ c = '~') ∧ t.head? = some c then readSet s bound o.operation outer t.tail
      else (setRange s (c :: t)).bind (readSet s bound (entered.push 0) outer)

/-- Reads a set behind its bracket and gives its depth and the text behind it. -/
def set? (s : Switches) (t : Text) : Option (Nat × Text) :=
  match skipSpace s t with
  | '^' :: t => if s.unicode then readSet s (t.length + 1) .empty [] t else none
  | t => readSet s (t.length + 1) .empty [] t

end Pattern

end Log

end CommandShell
