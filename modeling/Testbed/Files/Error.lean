/-!
# Failures of file operations

The ways in which reading and writing files can fail, with the system's wording.
-/

namespace Testbed

/-- Why an operation on files failed. -/
inductive FileError
  | notFound
  | alreadyExists
  | notDirectory
  | isDirectory
  | nameTooLong
  /-- A path holds a NUL character. -/
  | nulInPath
  /-- The bytes of a file are not text. -/
  | notText
  /-- Any other failure of a device, in its own words. -/
  | device (text : String)
  deriving DecidableEq

/-- The wording of a failure. -/
def FileError.message : FileError → String
  | notFound => "No such file or directory (os error 2)"
  | alreadyExists => "File exists (os error 17)"
  | notDirectory => "Not a directory (os error 20)"
  | isDirectory => "Is a directory (os error 21)"
  | nameTooLong => "File name too long (os error 36)"
  | nulInPath => "file name contained an unexpected NUL byte"
  | notText => "stream did not contain valid UTF-8"
  | device text => text

end Testbed
