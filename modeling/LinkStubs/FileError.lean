/-!
Why an operation on files fails, in the words of the operating system.
-/

namespace LinkStubs

inductive FileError where
  | notFound
  | badExecutable
  | permissionDenied
  | alreadyExists
  | notADirectory
  | isADirectory
  | noSpace
  | brokenPipe
  | nameTooLong
  | tooManyLevels
  | nulInName
  | nulInArgument
  | notUtf8
  deriving DecidableEq, Repr

namespace FileError

/-- An error with the number that the system gives it. -/
def numbered (text : String) (number : Nat) : String :=
  text ++ " (os error " ++ toString number ++ ")"

def message : FileError → String
  | .notFound => numbered "No such file or directory" 2
  | .badExecutable => numbered "Exec format error" 8
  | .permissionDenied => numbered "Permission denied" 13
  | .alreadyExists => numbered "File exists" 17
  | .notADirectory => numbered "Not a directory" 20
  | .isADirectory => numbered "Is a directory" 21
  | .noSpace => numbered "No space left on device" 28
  | .brokenPipe => numbered "Broken pipe" 32
  | .nameTooLong => numbered "File name too long" 36
  | .tooManyLevels => numbered "Too many levels of symbolic links" 40
  | .nulInName => "file name contained an unexpected NUL byte"
  | .nulInArgument => "nul byte found in provided data"
  | .notUtf8 => "stream did not contain valid UTF-8"

end FileError

end LinkStubs
