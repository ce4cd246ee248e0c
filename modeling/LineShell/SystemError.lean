/-!
# System errors

The reasons for which an operation on files or programs is refused.
-/

namespace LineShell

inductive SystemError where
  | notFound
  | argumentsTooLong
  | execFormat
  | badDescriptor
  | permissionDenied
  | busy
  | alreadyExists
  | notADirectory
  | isADirectory
  | invalidArgument
  | nameTooLong
  | directoryNotEmpty
  | brokenPipe
  | tooManyLinks
  | invalidText
  | nulInFileName
  | nulInProgram
  /-- Whatever else the system may answer to one who starts a program. -/
  | other (description : String) (number : Option Nat)
deriving DecidableEq, Repr, Inhabited

namespace SystemError

def description : SystemError → String
  | .notFound => "No such file or directory"
  | .argumentsTooLong => "Argument list too long"
  | .execFormat => "Exec format error"
  | .badDescriptor => "Bad file descriptor"
  | .permissionDenied => "Permission denied"
  | .busy => "Device or resource busy"
  | .alreadyExists => "File exists"
  | .notADirectory => "Not a directory"
  | .isADirectory => "Is a directory"
  | .invalidArgument => "Invalid argument"
  | .nameTooLong => "File name too long"
  | .brokenPipe => "Broken pipe"
  | .directoryNotEmpty => "Directory not empty"
  | .tooManyLinks => "Too many levels of symbolic links"
  | .invalidText => "stream did not contain valid UTF-8"
  | .nulInFileName => "file name contained an unexpected NUL byte"
  | .nulInProgram => "nul byte found in provided data"
  | .other description _ => description

/-- The system's number for the error; errors that are found before the system is
asked have none. -/
def number? : SystemError → Option Nat
  | .notFound => some 2
  | .argumentsTooLong => some 7
  | .execFormat => some 8
  | .badDescriptor => some 9
  | .permissionDenied => some 13
  | .busy => some 16
  | .alreadyExists => some 17
  | .notADirectory => some 20
  | .isADirectory => some 21
  | .invalidArgument => some 22
  | .brokenPipe => some 32
  | .nameTooLong => some 36
  | .directoryNotEmpty => some 39
  | .tooManyLinks => some 40
  | .invalidText | .nulInFileName | .nulInProgram => none
  | .other _ number => number

def message (e : SystemError) : String :=
  match e.number? with
  | some n => e.description ++ " (os error " ++ toString n ++ ")"
  | none => e.description

end SystemError
end LineShell
