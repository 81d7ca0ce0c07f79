import EngineTokens.Options.Model
import EngineTokens.Settings.Change

/-!
# What a user can ask for

Three commands: showing the tokens of a model, running the engine on a document, and looking at the
saved settings or changing one of them.
-/

set_option autoImplicit false

namespace EngineTokens

/-- Shows the tokens of a model. -/
structure ArgsCommand where
  options : ModelOptions := {}
  /-- The baseline is shown as well. -/
  baseline : Bool := false
  /-- The tokens are shown as JSON. -/
  json : Bool := false
  deriving DecidableEq, Repr, Inhabited

/-- Runs the engine on a document. -/
structure RunCommand where
  /-- The document. -/
  input : RawPath
  options : ModelOptions := {}
  /-- The engine's executable, unless it is the one in the saved directory. -/
  executable : Option RawPath := none
  /-- The command line is shown and nothing is run. -/
  dryRun : Bool := false
  deriving DecidableEq, Repr, Inhabited

/-- Looks at the settings or changes one. -/
inductive SettingsCommand
  | print
  | location
  | change (key : Preferences.Key) (value : String)
  deriving DecidableEq, Repr

/-- A command. -/
inductive Command
  | args (command : ArgsCommand)
  | run (command : RunCommand)
  | settings (command : SettingsCommand)
  deriving DecidableEq, Repr

/-- A command and the settings file that goes with it, unless it is the usual one. -/
structure Invocation where
  settings : Option RawPath := none
  command : Command
  deriving DecidableEq, Repr

end EngineTokens
