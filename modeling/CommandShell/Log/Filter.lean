import CommandShell.Log.Line
import CommandShell.Log.Pattern
import CommandShell.Text.Utf8

/-!
# Choosing log lines

A filter is a list of directives, separated by commas. A directive has a threshold and may name an
origin, a span and fields: `origin[span{field=value}]=level`. A value is a number or a pattern. Of
the directives without a span and without values of fields, the most specific one that fits an event
decides: the one with the longest origin that the event's origin starts with, then the one with more
fields that the event has. The events of the shell are in no span, so the other directives choose
nothing.

The characters of a directive are examined without the white space around it, while its parts are
cut at the same byte positions out of the directive with it. So white space in front of a directive
shifts its parts, and white space behind a level makes it an origin.
-/

namespace CommandShell

namespace Log

/-- One directive. An event needs at least the urgency of the threshold; zero lets nothing pass. -/
structure Directive where
  threshold : Nat
  origin : Option Text
  span : Option Text
  fields : List (Text × Option Text)
  deriving DecidableEq, Repr

abbrev Filter := List Directive

namespace Directive

/-- The threshold that lets everything pass. -/
def everything : Nat := Level.rank .trace

/-- The names of the thresholds, from zero on. -/
def thresholdNames : List Text :=
  ["off".toList, "error".toList, "warn".toList, "info".toList, "debug".toList, "trace".toList]

/-- The value of decimal digits with an optional plus sign. -/
def number? (t : Text) : Option Nat :=
  let digits := match t with
    | '+' :: d => d
    | d => d
  if digits ≠ [] ∧ digits.all Char.isDigit then
    some (digits.foldl (fun n c => 10 * n + (c.toNat - '0'.toNat)) 0)
  else none

/-- The threshold that a text names, by its number or by its name in whatever case. -/
def threshold? (t : Text) : Option Nat :=
  match (number? t).filter (· < thresholdNames.length) with
  | some n => some n
  | none => thresholdNames.findIdx? (· = t.map Char.toLower)

def dropBytes : Nat → Text → Text
  | _, [] => []
  | n, c :: t => if n = 0 then c :: t else dropBytes (n - c.utf8Size) t

def takeBytes : Nat → Text → Text
  | _, [] => []
  | n, c :: t => if n = 0 then [] else c :: takeBytes (n - c.utf8Size) t

def slice (t : Text) (start stop : Nat) : Text := takeBytes (stop - start) (dropBytes start t)

/-- What is being read, with the byte position at which it starts. -/
inductive Part where
  | beginning
  | levelOrOrigin (start : Nat)
  | span (start : Nat)
  | field (start : Nat)
  | afterFields
  | afterSpan
  | level (start : Nat)
  deriving DecidableEq, Repr

def empty : Directive := ⟨everything, none, none, []⟩

/-- A field is a name, which a value may follow: a number or a pattern. -/
def field? (t : Text) : Option (Text × Option Text) :=
  match Text.pieces '=' t with
  | [] => none
  | [name] => some (name, none)
  | name :: value :: _ =>
    if Pattern.isNumber value || Pattern.isPattern value then some (name, some value) else none

/-- Reads one character at a byte position; `source` is the directive with its white space. -/
def step (source : Text) (d : Directive) (i : Nat) (c : Char) : Part → Option (Directive × Part)
  | .beginning =>
    if c = '[' then some (d, .span (i + 1))
    else if ['-', ':', '_'].contains c || Text.isAlphanumeric c then some (d, .levelOrOrigin i)
    else none
  | .levelOrOrigin start =>
    if c = '=' then some ({ d with origin := some (slice source start i) }, .level (i + 1))
    else if c = '[' then some ({ d with origin := some (slice source start i) }, .span (i + 1))
    else some (d, .levelOrOrigin start)
  | .span start =>
    if c = ']' then some ({ d with span := some (slice source start i) }, .afterSpan)
    else if c = '\x7b' then
      let name := slice source start i
      some ({ d with span := if name = [] then none else some name }, .field (i + 1))
    else some (d, .span start)
  | .field start =>
    if c = '\x7d' then
      let text := slice source start i
      if text = [] then none
      else (field? text).map fun f => ({ d with fields := d.fields ++ [f] }, .afterFields)
    else some (d, .field start)
  | .afterFields => if c = ']' then some (d, .afterSpan) else none
  | .afterSpan => if c = '=' then some (d, .level (i + 1)) else none
  | .level start => some (d, .level start)

/-- Reads the characters from a byte position on. -/
def readFrom (source : Text) (d : Directive) (part : Part) (i : Nat) :
    Text → Option (Directive × Part)
  | [] => some (d, part)
  | c :: t =>
    match step source d i c part with
    | none => none
    | some (d', part') => readFrom source d' part' (i + c.utf8Size) t

/-- The directive, when the part in which it ends is known. -/
def finish (source : Text) (d : Directive) : Part → Option Directive
  | .levelOrOrigin start =>
    let text := dropBytes start source
    match threshold? text with
    | some n => some { d with threshold := n, origin := none }
    | none => some { d with threshold := everything, origin := some text }
  | .level start =>
    let text := dropBytes start source
    if text = [] then some { d with threshold := everything }
    else (threshold? text).map fun n => { d with threshold := n }
  | .afterSpan => some d
  | _ => none

def parse? (source : Text) : Option Directive :=
  match readFrom source empty .beginning 0 (Text.trim source) with
  | none => none
  | some (d, part) => finish source d part

/-- The directive decides about events in no span. -/
def isStatic (d : Directive) : Bool := d.span.isNone && d.fields.all (·.2.isNone)

/-- The names of the values that say where an event is noted. -/
def placeNames : List Text :=
  ["log.target".toList, "log.module_path".toList, "log.file".toList, "log.line".toList]

/-- The names of the values that an event carries, its message among them. The events of reading
lines carry the place where they are noted as well. -/
def fieldNames (e : Event) : List Text :=
  "message".toList ::
    if e.concernsReading then placeNames else e.values.map (·.1)

def fits (d : Directive) (e : Event) : Bool :=
  (match d.origin with
    | none => true
    | some o => (Text.after? o e.origin).isSome) &&
  d.fields.all fun f => (fieldNames e).contains f.1

/-- How specific a directive is: the length of its origin, counted from one, and the number of its
fields. -/
def specificity (d : Directive) : Nat × Nat :=
  (match d.origin with
    | none => 0
    | some o => Text.utf8Size o + 1, d.fields.length)

/-- The first directive is less specific than the second, or equally specific and comes first in the
order of the texts; one that is the same but for its threshold gives way to the later one. -/
def yieldsTo (d d' : Directive) : Bool :=
  let names := fun x : Directive => x.fields.map (·.1)
  d.specificity.1 < d'.specificity.1 ||
    (d.specificity.1 = d'.specificity.1 &&
      (d.specificity.2 < d'.specificity.2 ||
        (d.specificity.2 = d'.specificity.2 && !decide (names d' < names d))))

end Directive

namespace Filter

def parse? (t : Text) : Option Filter :=
  ((Text.pieces ',' t).filter (· ≠ [])).mapM Directive.parse?

/-- What a text that is no filter stands for. -/
def fallback : Filter := [⟨Level.rank .warn, none, none, []⟩]

/-- The filter that a text stands for; an empty list of directives lets errors pass. -/
def ofText (t : Text) : Filter :=
  match parse? t with
  | none => fallback
  | some [] => [⟨Level.rank .error, none, none, []⟩]
  | some f => f

def deciding? (f : Filter) (e : Event) : Option Directive :=
  (f.filter fun d => d.isStatic && d.fits e).foldl
    (fun best d => match best with
      | none => some d
      | some b => some (if b.yieldsTo d then d else b))
    none

def shows (f : Filter) (e : Event) : Bool :=
  match f.deciding? e with
  | none => false
  | some d => e.level.rank ≤ d.threshold

end Filter

end Log

end CommandShell
