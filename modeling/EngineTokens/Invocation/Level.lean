/-!
# Levels of the command line

The program and its commands. Each has arguments of its own.
-/

set_option autoImplicit false

namespace EngineTokens.Invocation

/-- A level of the command line. -/
inductive Level
  | program
  | args
  | run
  | settings
  | settingsShow
  | settingsPath
  | settingsSet
  deriving DecidableEq, Repr

namespace Level

/-- The words that lead to a level. -/
def words : Level → List String
  | .program => ["gsargs"]
  | .args => ["gsargs", "args"]
  | .run => ["gsargs", "run"]
  | .settings => ["gsargs", "settings"]
  | .settingsShow => ["gsargs", "settings", "show"]
  | .settingsPath => ["gsargs", "settings", "path"]
  | .settingsSet => ["gsargs", "settings", "set"]

/-- What a level is for. -/
def purpose : Level → String
  | .program => "Build Ghostscript argument lists from typed options and run the engine"
  | .args => "Print the generated tokens, one per line"
  | .run => "Run the engine on an input document"
  | .settings => "Inspect or change persisted settings"
  | .settingsShow => "Print all settings as JSON"
  | .settingsPath => "Print the location of the settings file"
  | .settingsSet => "Change one setting"

/-- The commands below a level. -/
def commands : Level → List (String × Level)
  | .program => [("args", .args), ("run", .run), ("settings", .settings)]
  | .settings => [("show", .settingsShow), ("path", .settingsPath), ("set", .settingsSet)]
  | _ => []

end Level

end EngineTokens.Invocation
