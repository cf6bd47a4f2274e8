import Outbox.Disk.Path

/-!
Why an operation on files fails: a refusal of the operating system, or a condition found before
or after asking it.
-/

set_option autoImplicit false

namespace Outbox

inductive OsError where
  | notFound
  | busy
  | exists
  | notDirectory
  | isDirectory
  | invalidArgument
  | noSpace
  | nameTooLong
  | notEmpty
  | linkLoop
  deriving DecidableEq, Repr

namespace OsError

def number : OsError → Nat
  | .notFound => 2
  | .busy => 16
  | .exists => 17
  | .notDirectory => 20
  | .isDirectory => 21
  | .invalidArgument => 22
  | .noSpace => 28
  | .nameTooLong => 36
  | .notEmpty => 39
  | .linkLoop => 40

def description : OsError → String
  | .notFound => "No such file or directory"
  | .busy => "Device or resource busy"
  | .exists => "File exists"
  | .notDirectory => "Not a directory"
  | .isDirectory => "Is a directory"
  | .invalidArgument => "Invalid argument"
  | .noSpace => "No space left on device"
  | .nameTooLong => "File name too long"
  | .notEmpty => "Directory not empty"
  | .linkLoop => "Too many levels of symbolic links"

/-- The text of an error: what it is called and its number. -/
def message (e : OsError) : String :=
  e.description ++ " (os error " ++ toString e.number ++ ")"

end OsError

inductive IoError where
  | os (cause : OsError)
  /-- A path holds a character that ends it early. -/
  | nulInPath
  | notText
  | malformedLine (cause : Utf8.Malformed)
  | closed
  | noFileName (path : Path)
  | badPattern (pattern : Text)
  /-- The wall clock cannot be read, which nothing can be done about. -/
  | noTime
  /-- A failure that came with its own text. -/
  | other (text : String)
  deriving DecidableEq, Repr

def IoError.message : IoError → String
  | .os cause => cause.message
  | .nulInPath => "file name contained an unexpected NUL byte"
  | .notText => "stream did not contain valid UTF-8"
  | .malformedLine cause => cause.message
  | .closed => "live file is closed"
  | .noFileName path => "live file path has no file name: " ++ path.text
  | .badPattern pattern => "invalid rollover timestamp format: " ++ String.ofList pattern
  | .noTime => "the wall clock cannot be read"
  | .other text => text

end Outbox
