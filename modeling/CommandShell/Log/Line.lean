import CommandShell.Log.Event
import CommandShell.Text.Quoted

/-!
# Log lines

Each event has a level, an origin, a message and named values, and is written as one line: the time,
the level, the origin, the message, and `name=value` for each value.
-/

namespace CommandShell

inductive Level where
  | error
  | warn
  | info
  | debug
  | trace
  deriving DecidableEq, Repr

namespace Level

/-- The rank of a level: the less urgent, the higher. -/
def rank : Level → Nat
  | .error => 1
  | .warn => 2
  | .info => 3
  | .debug => 4
  | .trace => 5

def column : Level → Text
  | .error => "ERROR".toList
  | .warn => " WARN".toList
  | .info => " INFO".toList
  | .debug => "DEBUG".toList
  | .trace => "TRACE".toList

end Level

namespace Log

def bracketed (values : List Text) : Text := '[' :: Text.join ", ".toList values ++ [']']

/-- A value that belongs to a name. -/
def wrapped (name : String) (value : Text) : Text := name.toList ++ '(' :: value ++ [')']

def fields (name : String) (values : List (String × Text)) : Text :=
  name.toList ++ " \x7b ".toList ++
    Text.join ", ".toList (values.map fun v => v.1.toList ++ ": ".toList ++ v.2) ++ " \x7d".toList

def modeName : WriteMode → Text
  | .truncate => "Truncate".toList
  | .append => "Append".toList

def operatorName (o : Operator) : Text :=
  (match o.selector with
    | none => []
    | some .out => "Stdout".toList
    | some .err => "Stderr".toList) ++ modeName o.mode

def tokenDetail : Token → Text
  | .word w => wrapped "Word" (Text.quoted w)
  | .operator o => wrapped "Redirect" (operatorName o)

def ioDetail : IoError → Text
  | .os e =>
    fields "Os" [("code", Text.ofNat e.number), ("kind", e.category),
      ("message", Text.quoted e.description)]
  | e => fields "Error" [("kind", "InvalidInput".toList), ("message", Text.quoted e.message)]

def lexDetail : LexError → Text
  | .unfinishedQuote => "UnfinishedQuote".toList
  | .trailingBackslash => "TrailingBackslash".toList

def parseDetail : ParseError → Text
  | .unexpectedToken o => wrapped "UnexpectedToken" (operatorName o)
  | .unexpectedEnd => "UnexpectedEnd".toList
  | .missingCommand o => wrapped "MissingCommand" (operatorName o)

def redirectDetail : TargetError → Text
  | .isDirectory p => wrapped "IsDirectory" (Text.quoted p)
  | .createDirectory p e => fields "CreateDir" [("path", Text.quoted p), ("source", ioDetail e)]
  | .opening p e => fields "Open" [("path", Text.quoted p), ("source", ioDetail e)]

def errorDetail : LineError → Text
  | .lexing e => wrapped "Lexing" (lexDetail e)
  | .parsing e => wrapped "Parsing" (parseDetail e)
  | .redirect e => wrapped "Redirect" (redirectDetail e)
  | .commandNotFound name => wrapped "CommandNotFound" (Text.quoted name)
  | .spawn name e => fields "Spawn" [("name", Text.quoted name), ("source", ioDetail e)]
  | .io e => wrapped "Io" (ioDetail e)

/-- The names of the signals, from the first on. -/
def signalNames : List String :=
  ["SIGHUP", "SIGINT", "SIGQUIT", "SIGILL", "SIGTRAP", "SIGABRT", "SIGBUS", "SIGFPE", "SIGKILL",
    "SIGUSR1", "SIGSEGV", "SIGUSR2", "SIGPIPE", "SIGALRM", "SIGTERM", "SIGSTKFLT", "SIGCHLD",
    "SIGCONT", "SIGSTOP", "SIGTSTP", "SIGTTIN", "SIGTTOU", "SIGURG", "SIGXCPU", "SIGXFSZ",
    "SIGVTALRM", "SIGPROF", "SIGWINCH", "SIGIO", "SIGPWR", "SIGSYS"]

def statusText : ExitStatus → Text
  | .exited n => "exit status: ".toList ++ Text.ofNat n
  | .signaled n =>
    "signal: ".toList ++ Text.ofNat n ++
      match n with
      | 0 => []
      | n + 1 =>
        match signalNames[n]? with
        | none => []
        | some name => " (".toList ++ name.toList ++ [')']

def clusterDisplayName : ClusterDisplay → Text
  | .whole => "Unicode".toList
  | .withoutJoiners => "NoZwj".toList
  | .perCharacter => "WcWidth".toList

end Log

namespace Event

def level : Event → Level
  | .ignoredWords _ => .warn
  | _ => .debug

def origin : Event → Text
  | .tokenized _ => "linesh::interpreter".toList
  | .ignoredWords _ => "linesh::parser".toList
  | .dispatchedBuiltin _ => "linesh::interpreter".toList
  | .resolvedProgram _ _ => "linesh::external".toList
  | .openedTarget _ _ => "linesh::redirect".toList
  | .finishedProgram _ _ => "linesh::external".toList
  | .lineFailed _ => "linesh::interpreter".toList
  | .measuredTerminal _ => "rustyline".toList
  | .readingPlainInput => "rustyline".toList
  | .plainTerminal => "rustyline".toList

def message : Event → Text
  | .tokenized _ => "tokenized input".toList
  | .ignoredWords _ => "words after redirect target are ignored".toList
  | .dispatchedBuiltin _ => "dispatching to built-in".toList
  | .resolvedProgram _ _ => "resolved external command".toList
  | .openedTarget _ _ => "opened redirect target".toList
  | .finishedProgram _ _ => "external command finished".toList
  | .lineFailed _ => "line failed".toList
  | .measuredTerminal d => "GraphemeClusterMode: ".toList ++ Log.clusterDisplayName d
  | .readingPlainInput => "stdin is not a tty".toList
  | .plainTerminal => "unsupported terminal".toList

def values : Event → List (Text × Text)
  | .tokenized tokens => [("tokens".toList, Log.bracketed (tokens.map Log.tokenDetail))]
  | .ignoredWords words => [("ignored".toList, Log.bracketed (words.map Text.quoted))]
  | .dispatchedBuiltin name => [("name".toList, Text.quoted name)]
  | .resolvedProgram name program =>
    [("name".toList, Text.quoted name), ("program".toList, program)]
  | .openedTarget p mode => [("path".toList, p), ("mode".toList, Log.modeName mode)]
  | .finishedProgram program status =>
    [("program".toList, program), ("exit_status".toList, Log.statusText status)]
  | .lineFailed e => [("error".toList, Log.errorDetail e)]
  | .measuredTerminal _ => []
  | .readingPlainInput => []
  | .plainTerminal => []

def line (time : Text) (e : Event) : Text :=
  Text.line (time ++ ' ' :: e.level.column ++ ' ' :: e.origin ++ ": ".toList ++ e.message ++
    e.values.flatMap fun v => ' ' :: v.1 ++ '=' :: v.2)

end Event

end CommandShell
