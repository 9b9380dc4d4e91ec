/-! Why an operation on files fails. -/
namespace Haulage.Files

/-- Failures that the file system reports by number. -/
inductive Failure where
  | missing
  | busy
  | exists
  | notDirectory
  | isDirectory
  | invalid
  | nameTooLong
  | notEmpty
  | linkLoop
  deriving DecidableEq

namespace Failure

def number : Failure → Nat
  | .missing => 2
  | .busy => 16
  | .exists => 17
  | .notDirectory => 20
  | .isDirectory => 21
  | .invalid => 22
  | .nameTooLong => 36
  | .notEmpty => 39
  | .linkLoop => 40

def name : Failure → String
  | .missing => "No such file or directory"
  | .busy => "Device or resource busy"
  | .exists => "File exists"
  | .notDirectory => "Not a directory"
  | .isDirectory => "Is a directory"
  | .invalid => "Invalid argument"
  | .nameTooLong => "File name too long"
  | .notEmpty => "Directory not empty"
  | .linkLoop => "Too many levels of symbolic links"

end Failure

/-- A failure of the file system, a path text that cannot name a file, a copy onto its own source,
bytes that are no text, or a failure with words from elsewhere. -/
inductive Fault where
  | system (failure : Failure)
  | nulInPath
  | sameFile (target : String)
  | notText
  | reported (words : String)
  deriving DecidableEq

def Fault.message : Fault → String
  | .system failure => failure.name ++ " (os error " ++ toString failure.number ++ ")"
  | .nulInPath => "file name contained an unexpected NUL byte"
  | .sameFile target => "source and destination are the same file: " ++ target
  | .notText => "stream did not contain valid UTF-8"
  | .reported words => words

end Haulage.Files
