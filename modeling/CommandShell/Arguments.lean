import CommandShell.Text

/-!
# Reading arguments

A grammar of arguments lists the options, each with its spellings and taking one value, and says how
many positional arguments there are. Arguments are read from left to right. `--help` and `help` ask
for the help text; `--` ends the options; any other argument that starts with a hyphen has to be an
option, and what is left is positional. Where the positional arguments are a list, the first of them
ends the options too.

A fault is reported at the first argument that shows it. Only if there is none does a request for
help count.
-/

namespace CommandShell

inductive Positionals where
  | none
  | atMostOne
  | list
  deriving DecidableEq, Repr

structure ArgumentGrammar where
  options : List (List Text)
  positionals : Positionals
  help : Text

inductive ArgumentError where
  | unrecognized (argument : Text)
  | missingValue (option : Text)
  | duplicate (option value : Text)
  /-- An option behind a request for help. -/
  | trailing
  deriving DecidableEq, Repr

namespace ArgumentError

def message : ArgumentError → Text
  | .unrecognized a => "Unrecognized argument: ".toList ++ a ++ ['\n']
  | .missingValue o => "No value provided for option '".toList ++ o ++ "'.\n".toList
  | .duplicate o v =>
    "Error parsing option '".toList ++ o ++ "' with value '".toList ++ v ++
      "': duplicate values provided\n".toList
  | .trailing => "Trailing arguments are not allowed after `help`.".toList

end ArgumentError

/-- Arguments sorted by their roles. -/
structure Arguments where
  /-- The values of the options, by the position of the option in the grammar. -/
  values : List (Nat × Text)
  positionals : List Text
  deriving DecidableEq, Repr

inductive Request where
  | help
  | run (arguments : Arguments)
  deriving DecidableEq, Repr

namespace Arguments

def empty : Arguments := ⟨[], []⟩

/-- The value of the option at a position of the grammar. -/
def value? (a : Arguments) (option : Nat) : Option Text := a.values.lookup option

end Arguments

namespace ArgumentGrammar

def helpWords : List Text := ["--help".toList, "help".toList]

/-- The position of the option with a spelling. -/
def option? (g : ArgumentGrammar) (spelling : Text) : Option Nat :=
  g.options.findIdx? (·.contains spelling)

/-- The grammar takes one more positional argument behind `count` of them. -/
def hasRoom (g : ArgumentGrammar) (count : Nat) : Bool :=
  match g.positionals with
  | .none => false
  | .atMostOne => count = 0
  | .list => true

/-- Reads the arguments that are left, given what was read before. -/
def readFrom (g : ArgumentGrammar) (help optionsEnded : Bool) (acc : Arguments) :
    List Text → Except ArgumentError Request
  | [] => .ok (if help then .help else .run acc)
  | a :: rest =>
    if !optionsEnded && helpWords.contains a then readFrom g true optionsEnded acc rest
    else if !optionsEnded && a.head? = some '-' then
      if a = ['-', '-'] then readFrom g help true acc rest
      else if help then .error .trailing
      else
        match g.option? a with
        | none => .error (.unrecognized a)
        | some i =>
          match rest with
          | [] => .error (.missingValue a)
          | v :: rest' =>
            if (acc.value? i).isSome then .error (.duplicate a v)
            else readFrom g help optionsEnded { acc with values := acc.values ++ [(i, v)] } rest'
    else if g.hasRoom acc.positionals.length then
      readFrom g help (optionsEnded || g.positionals = .list)
        { acc with positionals := acc.positionals ++ [a] } rest
    else .error (.unrecognized a)

/-- What the arguments ask for. -/
def read (g : ArgumentGrammar) (args : List Text) : Except ArgumentError Request :=
  g.readFrom false false .empty args

end ArgumentGrammar

end CommandShell
