import EngineTokens.Error

/-!
# Why a file operation fails

The refusals of the file system, with the wording in which they are reported.
-/

set_option autoImplicit false

namespace EngineTokens

/-- A refusal of the file system. -/
inductive Fault
  /-- Nothing stands at the path. -/
  | missing
  /-- Something that is not a directory stands where one is needed. -/
  | notDirectory
  /-- A directory stands where a file is needed. -/
  | isDirectory
  /-- Something stands already where a new directory should be made. -/
  | occupied
  /-- The program is a directory or is not marked executable. -/
  | denied
  /-- The program is neither a script nor a binary of this machine. -/
  | notExecutable
  /-- A device, a pipe or a socket is not opened here. -/
  | noDevice
  /-- More symbolic links were met than a lookup may follow. -/
  | tooManyLinks
  /-- A name is longer than the file system allows. -/
  | nameTooLong
  /-- A path holds a zero byte. -/
  | zeroInPath
  /-- An argument of a program holds a zero byte. -/
  | zeroInArgument
  /-- The empty path has no absolute form. -/
  | emptyPath
  /-- The contents of a file are not text. -/
  | notText
  deriving DecidableEq, Repr

/-- How a refusal is reported. -/
def Fault.message : Fault → String
  | .missing => "No such file or directory (os error 2)"
  | .notDirectory => "Not a directory (os error 20)"
  | .isDirectory => "Is a directory (os error 21)"
  | .occupied => "File exists (os error 17)"
  | .denied => "Permission denied (os error 13)"
  | .notExecutable => "Exec format error (os error 8)"
  | .noDevice => "No such device or address (os error 6)"
  | .tooManyLinks => "Too many levels of symbolic links (os error 40)"
  | .nameTooLong => "File name too long (os error 36)"
  | .zeroInPath => "file name contained an unexpected NUL byte"
  | .zeroInArgument => "nul byte found in provided data"
  | .emptyPath => "cannot make an empty path absolute"
  | .notText => "stream did not contain valid UTF-8"

/-- A refusal as a failure of the whole operation. -/
def Fault.toError (fault : Fault) : Error :=
  .io fault.message

end EngineTokens
