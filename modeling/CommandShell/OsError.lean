import CommandShell.Text

/-!
# Failures of the operating system

The causes for which looking at files, opening them, writing or starting programs fails here. Each
has a number and a text; a text with a character NUL is refused before the system is asked, and that
failure has no number.
-/

namespace CommandShell

inductive OsError where
  | notFound
  | argumentsTooLong
  | notExecutable
  | badDescriptor
  | permissionDenied
  | alreadyExists
  | notDirectory
  | isDirectory
  | fileBusy
  | noSpace
  | brokenPipe
  | nameTooLong
  | linkLoop
  deriving DecidableEq, Repr

namespace OsError

def number : OsError → Nat
  | .notFound => 2
  | .argumentsTooLong => 7
  | .notExecutable => 8
  | .badDescriptor => 9
  | .permissionDenied => 13
  | .alreadyExists => 17
  | .notDirectory => 20
  | .isDirectory => 21
  | .fileBusy => 26
  | .noSpace => 28
  | .brokenPipe => 32
  | .nameTooLong => 36
  | .linkLoop => 40

def description : OsError → Text
  | .notFound => "No such file or directory".toList
  | .argumentsTooLong => "Argument list too long".toList
  | .notExecutable => "Exec format error".toList
  | .badDescriptor => "Bad file descriptor".toList
  | .permissionDenied => "Permission denied".toList
  | .alreadyExists => "File exists".toList
  | .notDirectory => "Not a directory".toList
  | .isDirectory => "Is a directory".toList
  | .fileBusy => "Text file busy".toList
  | .noSpace => "No space left on device".toList
  | .brokenPipe => "Broken pipe".toList
  | .nameTooLong => "File name too long".toList
  | .linkLoop => "Too many levels of symbolic links".toList

/-- The class of the failure, as log lines name it. -/
def category : OsError → Text
  | .notFound => "NotFound".toList
  | .argumentsTooLong => "ArgumentListTooLong".toList
  | .notExecutable => "Uncategorized".toList
  | .badDescriptor => "Uncategorized".toList
  | .permissionDenied => "PermissionDenied".toList
  | .alreadyExists => "AlreadyExists".toList
  | .notDirectory => "NotADirectory".toList
  | .isDirectory => "IsADirectory".toList
  | .fileBusy => "ExecutableFileBusy".toList
  | .noSpace => "StorageFull".toList
  | .brokenPipe => "BrokenPipe".toList
  | .nameTooLong => "InvalidFilename".toList
  | .linkLoop => "FilesystemLoop".toList

end OsError

/-- A failed request to the system, or one that was refused before. -/
inductive IoError where
  | os (e : OsError)
  /-- A path with a NUL. -/
  | nulInPath
  /-- A NUL in what a program is started with. -/
  | nulInArgument
  deriving DecidableEq, Repr

namespace IoError

def message : IoError → Text
  | .os e => e.description ++ " (os error ".toList ++ Text.ofNat e.number ++ [')']
  | .nulInPath => "file name contained an unexpected NUL byte".toList
  | .nulInArgument => "nul byte found in provided data".toList

end IoError

/-- Results can be compared, whether they are values or failures. -/
instance decidableEqExcept {ε α : Type} [DecidableEq ε] [DecidableEq α] :
    DecidableEq (Except ε α)
  | .ok a, .ok b => decidable_of_iff (a = b) (by simp)
  | .error e, .error e' => decidable_of_iff (e = e') (by simp)
  | .ok _, .error _ => isFalse (by simp)
  | .error _, .ok _ => isFalse (by simp)

end CommandShell
