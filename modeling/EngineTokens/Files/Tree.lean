import EngineTokens.Files.Fault
import EngineTokens.Path.Lexical

/-!
# The files of a machine

A file system is a list of places, each with what stands there: a directory, a file, a symbolic link
or something special. A place is the list of names from the root and passes through no link. The
root itself is always a directory; the directory at hand may have been removed.

`Files.walk` is the lookup of a path: component by component, `..` goes to the containing directory
of the place reached, and links on the way are followed, at most forty of them. A path that holds a
zero byte or is too long is refused before anything is looked up, and a name that is too long when
its turn comes.

Devices, pipes and sockets are found like files. What becomes of one that is opened is up to the
machine, and here it is refused.
-/

set_option autoImplicit false

namespace EngineTokens

/-- What stands at a place. -/
inductive Entry
  | directory
  | file (contents : List UInt8) (executable : Bool)
  | link (target : RawPath)
  /-- A device, a pipe or a socket. -/
  | special
  deriving DecidableEq, Repr

/-- The names from the root to a place. -/
abbrev Place := List RawName

/-- A file system, and the place from which relative paths start. -/
structure Files where
  entries : List (Place × Entry)
  here : Place
  deriving DecidableEq, Repr

/-- What the lookup of a path comes to. -/
inductive Found
  /-- The path leads to an entry. -/
  | entry (place : Place) (entry : Entry)
  /-- Only the last name is missing; it is free in an existing directory. -/
  | vacant (place : Place)
  deriving DecidableEq, Repr

namespace Files

/-- What stands at a place. -/
def entry? (files : Files) (place : Place) : Option Entry :=
  if place = [] then some .directory else files.entries.lookup place

/-- The names in the directory at a place. -/
def namesIn (files : Files) (place : Place) : List RawName :=
  files.entries.filterMap fun (other, _) =>
    if other.dropLast = place then other.getLast? else none

/-- The longest name in bytes. -/
def nameLimit : Nat := 255

/-- The longest path in bytes. -/
def pathLimit : Nat := 4095

/-- Why a path is refused before it is looked up. -/
def refusal? (path : RawPath) : Option Fault :=
  if path.contains 0 then some .zeroInPath
  else if path = [] then some .missing
  else if pathLimit < path.length then some .nameTooLong
  else none

/-- How many links one lookup may follow. -/
def linkLimit : Nat := 40

/-- The steps of a lookup. A path that ends with a slash asks for a directory, which a further `.`
expresses. -/
def steps (path : RawPath) : List RawName :=
  Path.components path ++ if Path.endsWithSlash path then [Path.dot] else []

/-- The place from which the lookup of a path starts. -/
def origin (files : Files) (path : RawPath) : Place :=
  if Path.isAbsolute path then [] else files.here

/-- Takes the steps of a lookup from the directory at `place`. Where a link is to be followed,
`enter` goes on from the place where the link's target starts, with the steps of the target before
those that remain. A link that is the last step is followed only if `follow` holds. -/
def advance (files : Files) (follow : Bool) (enter : Place → List RawName → Except Fault Found)
    (place : Place) : List RawName → Except Fault Found
  | [] => .ok (.entry place .directory)
  | name :: rest =>
    if name = Path.dot then advance files follow enter place rest
    else if name = Path.dotDot then advance files follow enter place.dropLast rest
    else if nameLimit < name.length then .error .nameTooLong
    else
      match files.entry? (place ++ [name]) with
      | none => if rest = [] then .ok (.vacant (place ++ [name])) else .error .missing
      | some .directory => advance files follow enter (place ++ [name]) rest
      | some (.file contents executable) =>
        if rest = [] then .ok (.entry (place ++ [name]) (.file contents executable))
        else .error .notDirectory
      | some .special =>
        if rest = [] then .ok (.entry (place ++ [name]) .special) else .error .notDirectory
      | some (.link target) =>
        if rest = [] && !follow then .ok (.entry (place ++ [name]) (.link target))
        else if target = [] then .error .missing
        else enter (if Path.isAbsolute target then [] else place) (steps target ++ rest)

/-- Takes the steps of a lookup, following at most `links` links. -/
def walk (files : Files) (follow : Bool) : (links : Nat) → Place → List RawName →
    Except Fault Found
  | 0 => advance files follow fun _ _ => .error .tooManyLinks
  | links + 1 => advance files follow (walk files follow links)

/-- Looks a path up; a link that is its last component is followed only if `follow` holds. -/
def find (files : Files) (follow : Bool) (path : RawPath) : Except Fault Found :=
  match refusal? path with
  | some fault => .error fault
  | none => files.walk follow linkLimit (files.origin path) (steps path)

/-- The entry a path leads to, links followed, with its place. -/
def stat (files : Files) (path : RawPath) : Except Fault (Place × Entry) :=
  match files.find true path with
  | .ok (.entry place entry) => .ok (place, entry)
  | .ok (.vacant _) => .error .missing
  | .error fault => .error fault

/-- The path leads to something. -/
def doesExist (files : Files) (path : RawPath) : Bool :=
  (files.stat path).isOk

/-- The path leads to a directory. -/
def isDirectory (files : Files) (path : RawPath) : Bool :=
  match files.stat path with
  | .ok (_, .directory) => true
  | _ => false

/-- The names in the directory a path leads to. -/
def list (files : Files) (path : RawPath) : Except Fault (List RawName) :=
  match files.stat path with
  | .ok (place, .directory) => .ok (files.namesIn place)
  | .ok _ => .error .notDirectory
  | .error fault => .error fault

/-- The contents of the file a path leads to. -/
def read (files : Files) (path : RawPath) : Except Fault (List UInt8) :=
  match files.stat path with
  | .ok (_, .file contents _) => .ok contents
  | .ok (_, .special) => .error .noDevice
  | .ok _ => .error .isDirectory
  | .error fault => .error fault

end Files

end EngineTokens
