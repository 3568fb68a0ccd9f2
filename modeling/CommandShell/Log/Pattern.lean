import CommandShell.Log.Pattern.Set

/-!
# Patterns

The value that a filter asks of a field can be a pattern of characters. No event has a field with a
value to match, so of a pattern only counts whether it is one: it is read from left to right with
the open groups on a stack, and is refused if it has no meaning or is nested too deeply. The closing
brace ends a field, so a pattern contains none, and the counts in braces that could follow an
element cannot be written.

Main statement: repeating is refused where nothing stands before (`repeated_eq_none_iff`).
-/

namespace CommandShell

namespace Log

namespace Pattern

structure Part where
  depth : Nat
  /-- The part may be repeated; a change of switches may not. -/
  repeatable : Bool
  deriving DecidableEq, Repr

structure Group where
  /-- The switches outside, which hold again behind it. -/
  outside : Switches
  /-- The parts before it, from the last on. -/
  before : List Part
  /-- The depth of the alternatives of the group around it, if there are any. -/
  alternatives : Option Nat
  deriving DecidableEq, Repr

structure Draft where
  switches : Switches
  /-- The parts of the present alternative, from the last on. -/
  parts : List Part
  /-- The depth of the alternatives before, if there are any. -/
  alternatives : Option Nat
  /-- The open groups, from the innermost on. -/
  groups : List Group
  names : List Text
  deriving DecidableEq, Repr

namespace Draft

def empty : Draft := ⟨.initial, [], none, [], []⟩

def push (d : Draft) (p : Part) : Draft := { d with parts := p :: d.parts }

/-- The depth of the present alternative. -/
def sequenceDepth (d : Draft) : Nat := jointDepth (d.parts.map Part.depth)

/-- The depth of the innermost group, not counting the group itself. -/
def depth (d : Draft) : Nat :=
  match d.alternatives with
  | none => d.sequenceDepth
  | some a => max a d.sequenceDepth + 1

def alternative (d : Draft) : Draft :=
  { d with
    parts := []
    alternatives := some (max (d.alternatives.getD 0) d.sequenceDepth) }

/-- Opens a group with its own switches. -/
def enter (d : Draft) (inside : Switches) : Draft :=
  { d with
    switches := inside
    parts := []
    alternatives := none
    groups := ⟨d.switches, d.parts, d.alternatives⟩ :: d.groups }

def leave (d : Draft) : Option Draft :=
  match d.groups with
  | [] => none
  | g :: gs =>
    some { d with
      switches := g.outside
      parts := ⟨d.depth + 1, true⟩ :: g.before
      alternatives := g.alternatives
      groups := gs }

def repeated (d : Draft) : Option Draft :=
  match d.parts with
  | [] => none
  | p :: ps => if p.repeatable then some { d with parts := ⟨p.depth + 1, true⟩ :: ps } else none

theorem repeated_eq_none_iff (d : Draft) :
    d.repeated = none ↔ ∀ p ∈ d.parts.head?, p.repeatable = false := by
  unfold repeated
  cases d.parts with
  | nil => simp
  | cons p ps => cases h : p.repeatable <;> simp [h]

end Draft

def isGroupName : Text → Bool
  | [] => false
  | c :: t =>
    (c = '_' || Text.isAlphabetic c) &&
      t.all fun c => ['_', '.', '[', ']'].contains c || Text.isAlphanumeric c

/-- Opens a group with a name that the text begins with. -/
def enterNamed (d : Draft) (t : Text) : Option (Draft × Text) :=
  let name := t.takeWhile (· ≠ '>')
  match t.dropWhile (· ≠ '>') with
  | [] => none
  | _ :: rest =>
    if isGroupName name && !d.names.contains name then
      some ({ d with names := name :: d.names }.enter d.switches, rest)
    else none

/-- Opens a group with changed switches, or changes them for the rest of the present one. -/
def enterChanged (d : Draft) (t : Text) : Option (Draft × Text) :=
  let ends := fun c : Char => c = ':' || c = ')'
  let change := t.takeWhile (!ends ·)
  let switches := d.switches.change change
  if Switches.isChange change then
    match t.dropWhile (!ends ·) with
    | ':' :: rest => some (d.enter switches, rest)
    | ')' :: rest =>
      if change = [] then none
      else some ({ d with switches := switches }.push ⟨0, false⟩, rest)
    | _ => none
  else none

def openGroup (d : Draft) (t : Text) : Option (Draft × Text) :=
  match skipSpace d.switches t with
  | '?' :: 'P' :: '<' :: t => enterNamed d t
  | '?' :: '<' :: t => enterNamed d t
  | '?' :: t => enterChanged d t
  | t => some (d.enter d.switches, t)

def pushElement (d : Draft) (e : Element) : Option Draft :=
  if e.isSupported d.switches then some (d.push ⟨0, true⟩) else none

/-- Reads one part that begins with a character. -/
def readPart (d : Draft) (c : Char) (t : Text) : Option (Draft × Text) :=
  match c with
  | '(' => openGroup d t
  | ')' => d.leave.map (·, t)
  | '|' => some (d.alternative, t)
  | '[' => (set? d.switches t).map fun (depth, t) => (d.push ⟨depth, true⟩, t)
  | '?' => d.repeated.map (·, lazily t)
  | '*' => d.repeated.map (·, lazily t)
  | '+' => d.repeated.map (·, lazily t)
  | '\x7b' => none
  | '\\' => (escape d.switches t).bind fun (e, t) => (pushElement d e).map (·, t)
  | '.' => (pushElement d .dot).map (·, t)
  | '^' => (pushElement d .anchor).map (·, t)
  | '$' => (pushElement d .anchor).map (·, t)
  | c => (pushElement d (.literal c)).map (·, t)
where
  /-- Leaves out the sign that makes a repetition as short as possible. -/
  lazily : Text → Text
    | '?' :: t => t
    | t => t

/-- Reads a pattern; the bound is one on the number of parts that are left. -/
def read (bound : Nat) (d : Draft) (t : Text) : Option Draft :=
  match bound with
  | 0 => none
  | bound + 1 =>
    match skipSpace d.switches t with
    | [] => some d
    | c :: t =>
      match readPart d c t with
      | none => none
      | some (d, t) => read bound d t

def depthLimit : Nat := 250

def isPattern (t : Text) : Bool :=
  match read (t.length + 1) .empty t with
  | none => false
  | some d => d.groups.isEmpty && d.depth ≤ depthLimit

/-- The digits of a number, with or without a point, and an exponent. -/
def isDecimal (t : Text) : Bool :=
  let whole := t.takeWhile Char.isDigit
  let behind := t.dropWhile Char.isDigit
  let fraction := match behind with
    | '.' :: u => u.takeWhile Char.isDigit
    | _ => []
  let exponent := match behind with
    | '.' :: u => u.dropWhile Char.isDigit
    | u => u
  (whole ≠ [] || fraction ≠ []) &&
    match exponent with
    | [] => true
    | c :: e => (c = 'e' || c = 'E') && isUnsigned (unsigned e)
where
  unsigned : Text → Text
    | '+' :: t => t
    | '-' :: t => t
    | t => t
  isUnsigned (t : Text) : Bool := t ≠ [] && t.all Char.isDigit

/-- The text is a number, which may be infinite or none. -/
def isNumber (t : Text) : Bool :=
  let t := isDecimal.unsigned t
  isDecimal t ||
    ["inf".toList, "infinity".toList, "nan".toList].contains (t.map Char.toLower)

end Pattern

end Log

end CommandShell
