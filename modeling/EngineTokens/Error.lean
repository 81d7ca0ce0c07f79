import EngineTokens.Path.Raw

/-!
# What can go wrong

One type for every way in which building a token list or running the engine fails, with the one
line that states each. The plainer wording shown to a user is in `EngineTokens.Advice`.
-/

set_option autoImplicit false

namespace EngineTokens

/-- The choice that cannot be honoured. -/
inductive Choice
  /-- No output device, or one outside the catalog. -/
  | device
  /-- The device writes a file but none was named. -/
  | outputFile
  /-- No input document. -/
  | input
  /-- A debug switch the engine does not know. -/
  | debugSwitch
  /-- Options from tiers that cannot be combined. -/
  | modelKind
  /-- Display output from an engine that cannot hand back pages. -/
  | displayOutput
  /-- A page layout that cannot be converted. -/
  | displayFormat
  deriving DecidableEq, Repr

/-- A failure, by its cause. -/
inductive Error
  /-- A path that should be a directory is not one. -/
  | directoryNotFound (path : String)
  /-- A path that should exist does not. -/
  | fileNotFound (path : RawPath)
  /-- A number outside the range of the field it was meant for. -/
  | outOfRange (field : String) (value : Int)
  /-- Options that the requested standard rules out. -/
  | conformance (detail : String)
  /-- A choice that cannot be honoured. -/
  | unsupported (choice : Choice) (detail : String)
  /-- The engine could not be started, or handed over something unusable. -/
  | engine (detail : String)
  /-- A setting, or the settings file as a whole, is not of the expected form. -/
  | settings (detail : String)
  /-- A file operation failed. -/
  | io (detail : String)
  /-- A text is not well-formed JSON, or not JSON of the expected form. -/
  | serialization (detail : String)
  deriving DecidableEq, Repr

/-- The one line that states a failure. -/
def Error.message : Error → String
  | .directoryNotFound path => "directory not found: " ++ path
  | .fileNotFound path => "file not found: " ++ Path.shown path
  | .outOfRange field value => field ++ " out of range: " ++ toString value
  | .conformance detail => "conformance violation: " ++ detail
  | .unsupported _ detail => "unsupported selection: " ++ detail
  | .engine detail => "engine failed: " ++ detail
  | .settings detail => "settings error: " ++ detail
  | .io detail => "file I/O error: " ++ detail
  | .serialization detail => "serialization error: " ++ detail

end EngineTokens
