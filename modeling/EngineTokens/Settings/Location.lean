import EngineTokens.Path.Lexical

/-!
# Where the settings file is

In a directory of its own below the user's data directory, which is named by the first of several
variables that is set. An empty variable counts as set.
-/

set_option autoImplicit false

namespace EngineTokens

/-- The variables that say where data belongs. One of the first three counts as set only if it is a
text. -/
structure Environment where
  xdgDataHome : Option String := none
  appData : Option String := none
  home : Option String := none
  tmpDir : Option RawPath := none
  deriving DecidableEq, Repr, Inhabited

namespace Environment

/-- The user's data directory. -/
def dataHome (env : Environment) : RawPath :=
  match env.xdgDataHome, env.appData, env.home with
  | some dir, _, _ => dir
  | none, some dir, _ => dir
  | none, none, some dir => Path.join (Path.join dir ".local") "share"
  | none, none, none => env.tmpDir.getD (Path.ofText "/tmp")

/-- The directory of the settings file. -/
def dataDirectory (env : Environment) : RawPath :=
  Path.join env.dataHome "gsargs"

/-- The settings file, unless another is named. -/
def settingsPath (env : Environment) : RawPath :=
  Path.join env.dataDirectory "settings.json"

end Environment

end EngineTokens
