import CommandShell.Program

/-!
# A program that reports what it was started with

The probe does what its arguments say, one after the other: it writes a text, its arguments, its
directory or a variable, copies its input, or ends. Without arguments it writes its name. On its
platform the shell of the system finds none of the commands of a script.
-/

namespace CommandShell

namespace Probe

inductive Order where
  | out (t : Text)
  | err (t : Text)
  | argv
  | cwd
  | env (name : Text)
  | cat
  | exit (code : Int)
  | signal (number : Nat)
  | other (argument : Text)
  deriving DecidableEq, Repr

/-- The integer at the start of a text; zero if there is none. -/
def leadingInt (t : Text) : Int :=
  let value := fun digits : Text =>
    (digits.takeWhile Char.isDigit).foldl (fun n c => 10 * n + (c.toNat - '0'.toNat)) 0
  match t.dropWhile Char.isWhitespace with
  | '-' :: digits => -(value digits : Int)
  | '+' :: digits => value digits
  | digits => value digits

def orderOf (a : Text) : Order :=
  if a = "argv".toList then .argv
  else if a = "cwd".toList then .cwd
  else if a = "cat".toList then .cat
  else
    match Text.after? "out:".toList a with
    | some t => .out t
    | none =>
      match Text.after? "err:".toList a with
      | some t => .err t
      | none =>
        match Text.after? "env:".toList a with
        | some n => .env n
        | none =>
          match Text.after? "exit:".toList a with
          | some n => .exit (leadingInt n)
          | none =>
            match Text.after? "sig:".toList a with
            | some n => .signal (leadingInt n).toNat
            | none => .other a

/-- Signals that do not end a program: the test for its existence and those that are ignored. -/
def harmlessSignals : List Nat := [0, 17, 18, 23, 28]

def lastSignal : Nat := 64

def listing (argv : List Text) : Text :=
  argv.zipIdx.flatMap fun (a, i) => Text.line ('[' :: Text.ofNat i ++ "]=".toList ++ a)

def variableLine (environ : List Text) (name : Text) : Text :=
  Text.line <| match Variables.inBlock? environ name with
    | some v => name ++ '=' :: v
    | none => name ++ " unset".toList

/-- Carries out orders, behind what has been written already. -/
def obey (i : Invocation) (o : Outcome) : List Order → Outcome
  | [] => o
  | .out t :: rest => obey i { o with out := o.out ++ Text.line t } rest
  | .err t :: rest => obey i { o with err := o.err ++ Text.line t } rest
  | .argv :: rest => obey i { o with out := o.out ++ listing i.argv } rest
  | .cwd :: rest =>
    obey i { o with out := o.out ++ Text.line (i.workDir.getD "no cwd".toList) } rest
  | .env n :: rest => obey i { o with out := o.out ++ variableLine i.environ n } rest
  | .cat :: rest =>
    obey i { o with
      out := o.out ++ if o.readsInput then [] else i.input
      readsInput := true } rest
  | .exit code :: _ => { o with status := .exited (code % 256).toNat }
  | .signal n :: rest =>
    if harmlessSignals.contains n || lastSignal < n then obey i o rest
    else { o with status := .signaled n }
  | .other a :: rest => obey i { o with out := o.out ++ Text.line ("arg:".toList ++ a) } rest

def run (i : Invocation) : Outcome :=
  match i.argv.tail with
  | [] => ⟨"probe\n".toList, [], .exited 0, false⟩
  | args => obey i ⟨[], [], .exited 0, false⟩ (args.map orderOf)

/-- The first word of a line of a script, if it is a command. -/
def commandOf? (line : Text) : Option Text :=
  match (line.dropWhile Token.isBlank).takeWhile (!Token.isBlank ·) with
  | [] => none
  | '#' :: _ => none
  | word => some word

/-- What is told about the commands of a script, each with the number of its line. -/
def complaints (script t : Text) : Text :=
  (Text.pieces '\n' t).zipIdx.flatMap fun (line, i) =>
    match commandOf? line with
    | none => []
    | some word =>
      Text.line (Text.join ": ".toList [script, Text.ofNat (i + 1), word, "not found".toList])

/-- What a shell does that finds none of the commands of a script. -/
def runScript (t : Text) (i : Invocation) : Outcome :=
  let err := complaints (i.argv.tail.headD []) t
  ⟨[], err, .exited (if err = [] then 0 else 127), false⟩

/-- A platform on which every program is a probe, and scripts find no commands. -/
def platform : Platform where
  run := fun _ => run
  runScript := runScript
  defaultSearchPath := Platform.usualSearchPath

end Probe

end CommandShell
