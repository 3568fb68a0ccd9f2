import CommandShell.Builtin.ChangeDirectory
import CommandShell.Builtin.Describe
import CommandShell.Builtin.Echo
import CommandShell.Builtin.Exit
import CommandShell.Builtin.PrintDirectory

/-!
# Built-in commands

A handler is asked for a command by its name and arguments, and may have none. The standard handlers
know one name each; a table assigns handlers to names, which need not be the same.
-/

namespace CommandShell

/-- Gives the action for a name and arguments, unless it does not know the name. -/
abbrev Handler := Environment → Text → List Text → Option Action

/-- Handlers by the names that they are registered under. -/
structure CommandTable where
  handlers : List (Text × Handler)

inductive Builtin where
  | cd
  | echo
  | exit
  | pwd
  | type
  deriving DecidableEq, Repr

namespace Builtin

def all : List Builtin := [.cd, .echo, .exit, .pwd, .type]

def name : Builtin → Text
  | .cd => ChangeDirectory.name
  | .echo => Echo.name
  | .exit => Exit.name
  | .pwd => PrintDirectory.name
  | .type => Describe.name

/-- The action of a command whose arguments have a grammar. -/
def ofGrammar (g : ArgumentGrammar) (args : List Text) (run : Arguments → Action) : Action :=
  match g.read args with
  | .error e => .refusal e.message
  | .ok .help => .help g.help
  | .ok (.run a) => run a

def action (b : Builtin) (args : List Text) : Action :=
  match b with
  | .cd =>
    ofGrammar ChangeDirectory.grammar args fun a =>
      (ChangeDirectory.mk a.positionals.head?).action
  | .echo => (Echo.ofArguments args).action
  | .exit =>
    match Exit.ofArguments args with
    | .error e => .refusal e.message
    | .ok e => e.action
  | .pwd => ofGrammar PrintDirectory.grammar args fun _ => PrintDirectory.action
  | .type => ofGrammar Describe.grammar args fun a => (Describe.mk a.positionals).action

/-- Knows the command's own name only. -/
def handler (b : Builtin) : Handler := fun _ n args =>
  if n = b.name then some (b.action args) else none

end Builtin

namespace CommandTable

def empty : CommandTable := ⟨[]⟩

/-- Registers a handler under a name, in place of an earlier one. -/
def insert (t : CommandTable) (name : Text) (h : Handler) : CommandTable :=
  ⟨(name, h) :: t.handlers.filter (·.1 ≠ name)⟩

def ofList (handlers : List (Text × Handler)) : CommandTable :=
  handlers.foldl (fun t e => t.insert e.1 e.2) empty

/-- The handler registered under exactly this name. -/
def get? (t : CommandTable) (name : Text) : Option Handler :=
  (t.handlers.find? (·.1 = name)).map (·.2)

def names (t : CommandTable) : List Text := Text.sort (t.handlers.map Prod.fst)

/-- Each standard command under its own name. -/
def standard : CommandTable := ofList (Builtin.all.map fun b => (b.name, b.handler))

end CommandTable

end CommandShell
