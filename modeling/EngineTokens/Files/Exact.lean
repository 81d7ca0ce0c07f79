import EngineTokens.Files.Tree
import EngineTokens.Path.Canonical

/-!
# Existing files by their exact spelling

A file named by the user is stored under its absolute path. It has to exist, and unless the case of
letters is to be ignored, each of its names has to stand in the listing of the directory before it
exactly as written. The files are looked at under the bytes of the absolute path; what is stored is
that path as a text, in canonical spelling.
-/

set_option autoImplicit false

namespace EngineTokens.Files

/-- The names and dots of a path from the root. The empty path has none, and a relative path starts
from the directory at hand, which has to be there still. -/
def absolute (files : Files) (path : RawPath) : Except Fault (List RawName) :=
  if path = [] then .error .emptyPath
  else if Path.isAbsolute path then .ok (Path.components path)
  else if files.entry? files.here = some .directory then .ok (files.here ++ Path.components path)
  else .error .missing

/-- The names of a path from the root, `.` and `..` worked out on the path alone. -/
def absoluteNames (files : Files) (path : RawPath) : Except Fault (List RawName) :=
  (files.absolute path).map Path.resolve

/-- Each of the names stands in the listing of the directory that the names before it lead to. -/
def matchesExactly (files : Files) (above : List RawName) : List RawName → Bool
  | [] => true
  | name :: rest =>
    match files.list (Path.ofNames above) with
    | .ok names => names.contains name && matchesExactly files (above ++ [name]) rest
    | .error _ => false

/-- What is stored for the names of an absolute path. -/
def spelled (names : List RawName) : String :=
  Path.canonicalize (Path.shown (Path.ofNames names))

/-- The absolute, canonical path of what stands at a path. -/
def resolveExisting (files : Files) (path : RawPath) (ignoreCase : Bool) : Except Error String :=
  match files.absoluteNames path with
  | .error fault => .error fault.toError
  | .ok names =>
    if !files.doesExist (Path.ofNames names) then .error (.fileNotFound (Path.ofNames names))
    else if !ignoreCase && !files.matchesExactly [] names then
      .error (.fileNotFound (Path.ofNames names))
    else .ok (spelled names)

end EngineTokens.Files
