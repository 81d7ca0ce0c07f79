import EngineTokens.Shell.Command

/-!
# Aliases

An alias is a name that stands for a text: where the name begins a command, the text is read in its
place. Aliases are listed row by row, and within a row in the order in which their names were first
set.
-/

set_option autoImplicit false

namespace EngineTokens.Shell

/-- Names with the texts they stand for, in the order in which the names were first set. -/
structure Aliases where
  entries : List (ByteText × ByteText) := []
  deriving DecidableEq, Repr

namespace Aliases

/-- The text of a name. -/
def get? (aliases : Aliases) (name : ByteText) : Option ByteText :=
  aliases.entries.lookup name

/-- Sets the text of a name among some entries; a name that is there keeps its place. -/
def insertInto (name text : ByteText) : List (ByteText × ByteText) → List (ByteText × ByteText)
  | [] => [(name, text)]
  | (other, old) :: rest =>
    if name == other then (other, text) :: rest else (other, old) :: insertInto name text rest

/-- Sets the text of a name. -/
def insert (aliases : Aliases) (name text : ByteText) : Aliases :=
  ⟨insertInto name text aliases.entries⟩

/-- Takes a name away. -/
def erase (aliases : Aliases) (name : ByteText) : Aliases :=
  ⟨aliases.entries.filter fun (other, _) => other != name⟩

/-- The names with their texts, as they are listed. -/
def toList (aliases : Aliases) : List (ByteText × ByteText) :=
  inRows 39 aliases.entries

end Aliases

end EngineTokens.Shell
