import CommandShell.Action

/-!
# Asking to exit

`exit` takes at most one argument, an integer of 32 bits in decimal with an optional sign, and asks
the shell to exit with it. Anything else is refused and leaves the request as it was.
-/

namespace CommandShell

structure Exit where
  code : Option ExitCode
  deriving DecidableEq, Repr

namespace Exit

def name : Text := "exit".toList

/-- The value of decimal digits, of which there is at least one. -/
def digitsValue? (t : Text) : Option Nat :=
  if t ≠ [] ∧ t.all Char.isDigit then
    some (t.foldl (fun n c => 10 * n + (c.toNat - '0'.toNat)) 0)
  else none

def least : ExitCode := -2147483648

def greatest : ExitCode := 2147483647

/-- The integer that a text writes, if it has 32 bits. -/
def code? (t : Text) : Option ExitCode :=
  let value : Option Int :=
    match t with
    | '+' :: digits => (digitsValue? digits).map Int.ofNat
    | '-' :: digits => (digitsValue? digits).map fun n => -(n : Int)
    | digits => (digitsValue? digits).map Int.ofNat
  value.filter fun n => least ≤ n ∧ n ≤ greatest

inductive Refusal where
  | notNumeric (argument : Text)
  | tooMany
  deriving DecidableEq, Repr

def Refusal.message : Refusal → Text
  | .notNumeric a => name ++ ": ".toList ++ a ++ ": numeric argument required".toList
  | .tooMany => name ++ ": too many arguments".toList

def ofArguments : List Text → Except Refusal Exit
  | [] => .ok ⟨none⟩
  | [a] =>
    match code? a with
    | some n => .ok ⟨some n⟩
    | none => .error (.notNumeric a)
  | _ => .error .tooMany

def action (e : Exit) : Action :=
  .ofBody fun _ st =>
    let code := e.code.getD 0
    ({ st with env := { st.env with requestedExit := some code } }, .ok code)

end Exit

end CommandShell
