import EngineTokens.Session.Perform
import EngineTokens.Shell.Spawn

/-!
# The program on a machine

The outer layer: it looks at the part of the machine's file system that a command line can reach,
runs the program on that picture, writes back what has changed, and prints. A link is seen as what
it leads to, the names on the way have to be texts, and an engine has to be a shell script.
-/

set_option autoImplicit false

namespace EngineTokens.Machine

/-- The entries of the directory at a place, without the contents of files. -/
def childrenOf (place : Place) : IO (List (Place × Entry)) := do
  let children ← (← IO.FS.realPath (Path.shown (Path.ofNames place))).readDir
  children.toList.mapM fun child => do
    let entry : Entry := if ← child.path.isDir then .directory else .file [] true
    return (place ++ [Path.ofText child.fileName], entry)

/-- What stands at a place, with the contents of a file and the entries of a directory. -/
def entriesAt (place : Place) : IO (List (Place × Entry)) := do
  let path := (← IO.currentDir) / Path.shown (Path.ofNames place)
  if ← path.isDir then
    let children ← try childrenOf place catch _ => pure []
    return (place, .directory) :: children
  else if ← path.pathExists then
    let contents ← try IO.FS.readBinFile path catch _ => pure .empty
    return [(place, .file contents.toList true)]
  else return []

/-- The places on the way from the root to a place, the root first. -/
def wayTo (place : Place) : List Place :=
  (List.range (place.length + 1)).map fun n => place.take n

/-- Adds to a picture what can be seen on the way to each of some paths. -/
def observe (files : Files) (paths : List RawPath) : IO Files := do
  let named := paths.filterMap fun path => (files.absoluteNames path).toOption
  let places := (named.flatMap wayTo).eraseDups
  places.foldlM (fun files place => do
    let seen := (← entriesAt place).filter fun (other, _) => other != []
    return seen.foldl (fun files (other, entry) =>
      match files.entry? other, entry with
      | some (.file (_ :: _) _), .file [] _ => files
      | _, entry => files.put other entry) files) files

/-- The paths that a word of the command line may hold. -/
def pathsIn (word : String) : List RawPath :=
  let text := word.toList
  [text, text.drop 2, (text.dropWhile (· != '=')).drop 1].map Text.Utf8.encode

/-- The paths that the saved settings add to those of the command line. -/
def savedPaths (files : Files) (settingsPath : RawPath) (named : List RawPath) : List RawPath :=
  match Store.openAt files settingsPath with
  | .error _ => []
  | .ok store =>
    let saved := store.preferences
    Engine.locate saved.libraryDir :: named.map fun path => Path.join saved.iccDir path

/-- Writes back what a run has changed. -/
def writeBack (before after : Files) : IO Unit := do
  for (place, entry) in after.entries do
    if before.entry? place != some entry then
      match entry with
      | .directory => IO.FS.createDirAll (Path.shown (Path.ofNames place))
      | .file contents _ =>
        IO.FS.writeBinFile (Path.shown (Path.ofNames place)) (ByteArray.mk contents.toArray)
      | .link _ | .special => pure ()

/-- The variables that say where data belongs. -/
def environment : IO Environment := do
  return { xdgDataHome := ← IO.getEnv "XDG_DATA_HOME", appData := ← IO.getEnv "APPDATA"
           home := ← IO.getEnv "HOME", tmpDir := (← IO.getEnv "TMPDIR").map Path.ofText }

/-- Runs the program on the words of its command line and gives the exit code. -/
def run (words : List String) : IO UInt32 := do
  let env ← environment
  let here := Path.resolve (Path.components (← IO.currentDir).toString)
  let settingsPath :=
    match Invocation.read words with
    | .ok invocation => invocation.settingsPath env
    | .error _ => env.settingsPath
  let named := words.flatMap pathsIn
  -- the directory at hand is there, and what stands in it is found out with the rest
  let start : Files := { entries := [(here, .directory)], here }
  let files ← observe start (settingsPath :: Path.dot :: named)
  let files ← observe files (savedPaths files settingsPath named)
  let ending := runProgram Shell.spawn files env words
  writeBack files ending.files
  IO.print ending.out
  IO.eprint ending.err
  return UInt32.ofNat ending.code

end EngineTokens.Machine

/-- Runs the program. -/
def main (words : List String) : IO UInt32 :=
  EngineTokens.Machine.run words
