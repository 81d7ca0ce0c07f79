import EngineTokens.Files.Tree
import EngineTokens.Params.Steps
import EngineTokens.Path.Canonical
import EngineTokens.Token

/-!
# The include directories

An ordered set of directories in canonical spelling. A path is accepted if its canonical form is not
empty and is a directory at that moment; it is added only if its canonical form is new.
-/

set_option autoImplicit false

namespace EngineTokens.Params

/-- The include directories, in order of first acceptance. -/
structure Sources where
  entries : List String := []
  deriving DecidableEq, Repr, Inhabited

namespace Sources

/-- Between two directories of one token stands a semicolon. -/
def separator : String := ";"

/-- A path names a member, whatever its spelling. -/
def contains (sources : Sources) (path : String) : Bool :=
  sources.entries.contains (Path.canonicalize path)

/-- Accepts a directory; the answer tells whether it is new. -/
def accept (files : Files) (path : String) : Steps Sources Bool := do
  let canonical := Path.canonicalize path
  if canonical = "" ∨ files.isDirectory canonical = false then throw (.directoryNotFound path)
  if (← get).contains canonical then return false
  modify fun sources => ⟨sources.entries ++ [canonical]⟩
  return true

/-- Registers a directory: the answer, and the directories after it. -/
def add (files : Files) (sources : Sources) (path : String) : Except Error Bool × Sources :=
  (accept files path).take sources

/-- The number of directories. -/
def size (sources : Sources) : Nat :=
  sources.entries.length

/-- There are no directories. -/
def isEmpty (sources : Sources) : Bool :=
  sources.entries.isEmpty

/-- The directories as one text. -/
def joined (sources : Sources) : String :=
  separator.intercalate sources.entries

/-- The one token for all directories, if there are any. -/
def tokens (sources : Sources) : List String :=
  if sources.isEmpty then [] else [Token.text "-I" sources.joined]

end Sources

end EngineTokens.Params
