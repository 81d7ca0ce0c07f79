import EngineTokens.Device
import EngineTokens.Path.Canonical
import EngineTokens.Settings.Preferences
import EngineTokens.Text.Blank
import EngineTokens.Text.Integer
import EngineTokens.Text.Quoted

/-!
# Changing one setting

A setting is changed by its key and a text. Directories are kept in canonical spelling. The device
is given by its position in the catalog; any negative number means that none is selected.
-/

set_option autoImplicit false

namespace EngineTokens.Preferences

/-- The settings that can be changed. -/
inductive Key
  | lastFilePath
  | libraryDir
  | iccDir
  | userArgs
  | deviceIndex
  deriving DecidableEq, Repr

/-- Every key. -/
def Key.all : List Key :=
  [.lastFilePath, .libraryDir, .iccDir, .userArgs, .deviceIndex]

/-- The word for a key. -/
def Key.word : Key → String
  | .lastFilePath => "last-file-path"
  | .libraryDir => "library-dir"
  | .iccDir => "icc-dir"
  | .userArgs => "user-args"
  | .deviceIndex => "device-index"

/-- The key of a word. -/
def Key.ofWord? (word : String) : Option Key :=
  Key.all.find? fun key => key.word == word

/-- Reads a device selection. -/
def readIndex (value : String) : Except Error Int :=
  match Text.Integer.readWithin? integerBounds.1 integerBounds.2 (Text.trim value.toList) with
  | none =>
    .error (.settings ("device_index must be an integer, got " ++ Text.Quoted.quote value))
  | some index =>
    if 0 ≤ index then (Device.byIndex index).map fun _ => index else .ok (-1)

/-- Changes one setting. -/
def change (p : Preferences) (key : Key) (value : String) : Except Error Preferences :=
  match key with
  | .lastFilePath => .ok { p with lastFilePath := value }
  | .libraryDir => .ok { p with libraryDir := Path.canonicalize value }
  | .iccDir => .ok { p with iccDir := Path.canonicalize value }
  | .userArgs => .ok { p with userArgs := value }
  | .deviceIndex => (readIndex value).map fun index => { p with deviceIndex := index }

end EngineTokens.Preferences
