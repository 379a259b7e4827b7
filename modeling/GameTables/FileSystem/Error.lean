/-!
# File errors

Why the host refuses an operation on files or programs.
-/

namespace GameTables

inductive FileError where
  | notFound
  | notADirectory
  | isADirectory
  | alreadyExists
  | directoryNotEmpty
  | permissionDenied
  | busy
  | nameTooLong
  /-- Following a path meets too many symbolic links. -/
  | tooManyLinks
  /-- A path that holds a zero byte. -/
  | zeroInPath
  /-- A command or an argument that holds a zero byte. -/
  | zeroInArgument
  /-- An argument of a command that is longer than the system allows. -/
  | argumentTooLong
  /-- A file that should hold text is not UTF-8. -/
  | notText
  | noSpace
  | inputOutput
  deriving DecidableEq, Repr

namespace FileError

/-- The words for an error. -/
def words : FileError → String
  | .notFound => "No such file or directory"
  | .notADirectory => "Not a directory"
  | .isADirectory => "Is a directory"
  | .alreadyExists => "File exists"
  | .directoryNotEmpty => "Directory not empty"
  | .permissionDenied => "Permission denied"
  | .busy => "Device or resource busy"
  | .nameTooLong => "File name too long"
  | .tooManyLinks => "Too many levels of symbolic links"
  | .zeroInPath => "file name contained an unexpected NUL byte"
  | .zeroInArgument => "nul byte found in provided data"
  | .argumentTooLong => "Argument list too long"
  | .notText => "stream did not contain valid UTF-8"
  | .noSpace => "No space left on device"
  | .inputOutput => "Input/output error"

/-- The number that the system gives an error. Errors found before the system is asked have none. -/
def number? : FileError → Option Nat
  | .notFound => some 2
  | .notADirectory => some 20
  | .isADirectory => some 21
  | .alreadyExists => some 17
  | .directoryNotEmpty => some 39
  | .permissionDenied => some 13
  | .busy => some 16
  | .nameTooLong => some 36
  | .tooManyLinks => some 40
  | .zeroInPath => none
  | .zeroInArgument => none
  | .argumentTooLong => some 7
  | .notText => none
  | .noSpace => some 28
  | .inputOutput => some 5

/-- The words for an error, with its number where it has one. -/
def message (error : FileError) : String :=
  match error.number? with
  | none => error.words
  | some number => s!"{error.words} (os error {number})"

end FileError

end GameTables
