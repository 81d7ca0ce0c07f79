import EngineTokens.Shell.Command

/-!
# The programs of the machine

Besides the files that a script is given, the machine has programs in two directories. A path is
followed through these directories alone.
-/

set_option autoImplicit false

namespace EngineTokens.Shell.Machine

/-- The shells of the machine. -/
def shellNames : List String := ["sh", "dash", "bash"]

/-- The programs of the machine that are no shells. -/
def programNames : List String :=
  ["basename", "cat", "chmod", "cp", "cut", "dirname", "echo", "env", "expr", "false", "head", "ln",
    "ls", "mkdir", "mv", "printenv", "printf", "pwd", "readlink", "realpath", "rev", "rm", "rmdir",
    "seq", "sleep", "sort", "tac", "tail", "tee", "touch", "tr", "true", "uniq", "wc", "yes"]

/-- The name belongs to a program of the machine. -/
def isProgramName (name : ByteText) : Bool :=
  let name := String.ofList name
  programNames.contains name || shellNames.contains name

/-- What a path leads to, as far as the programs of the machine are concerned. -/
inductive Target
  | program (name : ByteText)
  /-- Something below a program, which is no directory. -/
  | beyond
  /-- Something else. -/
  | elsewhere
  deriving DecidableEq, Repr

/-- Where the components of a path lead from a directory, whose own components stand in a list, the
last first. -/
def targetFrom (directory : List ByteText) : List ByteText → Target
  | [] => .elsewhere
  | part :: rest =>
    let directories : List (List String) := [["bin"], ["bin", "usr"]]
    if part.isEmpty || part == ['.'] then targetFrom directory rest
    else if part == ['.', '.'] then targetFrom (directory.drop 1) rest
    else if directories.contains (directory.map String.ofList) && isProgramName part then
      if rest.isEmpty then .program part else .beyond
    else if (["usr"] :: directories).contains ((part :: directory).map String.ofList) then
      targetFrom (part :: directory) rest
    else .elsewhere

/-- Where a path leads. -/
def target (path : ByteText) : Target :=
  match path with
  | '/' :: rest => targetFrom [] (piecesAt '/' rest)
  | _ => .elsewhere

/-- The path leads to a program. -/
def isProgram (path : ByteText) : Bool :=
  match target path with
  | .program _ => true
  | _ => false

end EngineTokens.Shell.Machine
