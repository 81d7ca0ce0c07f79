import EngineTokens.Engine.Printer
import EngineTokens.Files.Tree

/-!
# What a command leaves behind

The file system after a command, the lines that it printed, and how it ended: with an exit code, or
with a failure that is still to be told to the user.
-/

set_option autoImplicit false

namespace EngineTokens

/-- What a command leaves behind. -/
structure Report where
  files : Files
  printed : Engine.Printed := {}
  result : Except Error Nat

namespace Report

/-- A command that failed before it printed or changed anything. -/
def failed (files : Files) (e : Error) : Report :=
  { files, result := .error e }

/-- A command that printed some lines and changed nothing. -/
def said (files : Files) (lines : List String) : Report :=
  { files, printed := { out := lines }, result := .ok 0 }

end Report

end EngineTokens
