import EngineTokens.Files.Tree

/-!
# Changes to the file system

Making directories, writing files, making links and removing what stands at a path. A single
operation returns the file system after it, or the refusal, and a refused one changes nothing; only
the making of several directories can be refused half-way.
-/

set_option autoImplicit false

namespace EngineTokens.Files

/-- Puts an entry at a place, in the stead of what stood there. -/
def put (files : Files) (place : Place) (entry : Entry) : Files :=
  { files with entries := files.entries.filter (fun (other, _) => other != place) ++ [(place, entry)] }

/-- Puts an entry at a vacant place. It cannot be the root, and the directory around it has to be
there still. -/
def create (files : Files) (place : Place) (entry : Entry) : Except Fault Files :=
  if place = [] then .error .occupied
  else if files.entry? place.dropLast = some .directory then .ok (files.put place entry)
  else .error .missing

/-- Makes a directory in an existing one. Slashes at the end of the path do not matter. -/
def makeDirectory (files : Files) (path : RawPath) : Except Fault Files :=
  match refusal? path with
  | some fault => .error fault
  | none =>
    match files.walk false linkLimit (files.origin path) (Path.components path) with
    | .ok (.vacant place) => files.create place .directory
    | .ok (.entry _ _) => .error .occupied
    | .error fault => .error fault

/-- Makes the directories of a list, where each may be there already, up to the first refusal. -/
def makeEach (files : Files) : List RawPath → Files × Option Fault
  | [] => (files, none)
  | path :: rest =>
    match files.makeDirectory path with
    | .ok made => makeEach made rest
    | .error fault => if files.isDirectory path then makeEach files rest else (files, some fault)

/-- Climbs from a path to the nearest directory that is there or can be made, and then makes those
below it; `below` holds the paths passed on the way, nearest first. -/
def makeUpward (files : Files) : (bound : Nat) → (below : List RawPath) → RawPath →
    Files × Option Fault
  | 0, below, _ => makeEach files below
  | bound + 1, below, path =>
    match Path.parent? path with
    | none => makeEach files below
    | some parent =>
      match files.makeDirectory path with
      | .ok made => makeEach made below
      | .error .missing => makeUpward files bound (path :: below) parent
      | .error fault =>
        if files.isDirectory path then makeEach files below else (files, some fault)

/-- Makes a directory together with those above it that are missing. The empty path stands for the
directory at hand. Directories made before a refusal stay. -/
def makeDirectories (files : Files) (path : RawPath) : Files × Option Fault :=
  makeUpward files (path.length + 1) [] path

/-- Why no file can be made at a path that asks for a directory by a slash at its end, or that is a
link to such a path: the directory above it has to be there, and even so a file is not a directory. -/
def slashRefusal? (files : Files) : (links : Nat) → (start : Place) → (path : RawPath) →
    Option Fault
  | 0, _, _ => none
  | links + 1, start, path =>
    let origin := if Path.isAbsolute path then [] else start
    if Path.endsWithSlash path then
      match files.walk true linkLimit origin ((Path.components path).dropLast ++ [Path.dot]) with
      | .ok _ => some .isDirectory
      | .error fault => some fault
    else
      match files.walk false linkLimit origin (Path.components path) with
      | .ok (.entry place (.link target)) => slashRefusal? files links place.dropLast target
      | _ => none

/-- Looks up the path of a file that is to be written, and made if only its last name is missing. -/
def findToWrite (files : Files) (path : RawPath) : Except Fault Found :=
  match refusal? path, files.slashRefusal? linkLimit files.here path with
  | some fault, _ | none, some fault => .error fault
  | none, none =>
    match files.find true path with
    | .ok (.entry place (.file contents executable)) => .ok (.entry place (.file contents executable))
    | .ok (.entry _ .special) => .error .noDevice
    | .ok (.entry _ _) => .error .isDirectory
    | other => other

/-- Writes a file, which is made if only its last name is missing. A file that is there keeps its
mode. -/
def write (files : Files) (path : RawPath) (contents : List UInt8) : Except Fault Files :=
  match files.findToWrite path with
  | .ok (.entry place (.file _ executable)) => .ok (files.put place (.file contents executable))
  | .ok (.entry _ _) => .error .isDirectory
  | .ok (.vacant place) => files.create place (.file contents false)
  | .error fault => .error fault

/-- Marks the file a path leads to as executable or not. -/
def setExecutable (files : Files) (path : RawPath) (executable : Bool) : Except Fault Files :=
  match files.stat path with
  | .ok (place, .file contents _) => .ok (files.put place (.file contents executable))
  | .ok _ => .error .isDirectory
  | .error fault => .error fault

/-- Makes a symbolic link. -/
def makeLink (files : Files) (path target : RawPath) : Except Fault Files :=
  match files.find false path with
  | .ok (.vacant place) => files.create place (.link target)
  | .ok (.entry _ _) => .error .occupied
  | .error fault => .error fault

/-- Removes what stands at a path, and all below it; links are not followed. Where nothing stands,
nothing changes. -/
def remove (files : Files) (path : RawPath) : Files :=
  match files.find false path with
  | .ok (.entry place _) =>
    { files with entries := files.entries.filter fun (other, _) => !place.isPrefixOf other }
  | _ => files

end EngineTokens.Files
