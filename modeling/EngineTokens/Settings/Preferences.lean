import EngineTokens.Json.Printer
import EngineTokens.Json.Record

/-!
# What is remembered from run to run

Five settings: the last document, where the engine and the ICC profiles are, the extra arguments of
the user, and the selected device by its position in the catalog. They are kept as members of one
JSON object among others; a member that is missing or of another kind counts as not set.
-/

set_option autoImplicit false

namespace EngineTokens

/-- The settings. -/
structure Preferences where
  /-- The last document handed to the engine. -/
  lastFilePath : String := ""
  /-- The directory that holds the engine's executable. -/
  libraryDir : String := ""
  /-- The directory of the last ICC profile. -/
  iccDir : String := ""
  /-- Extra arguments, as one text. -/
  userArgs : String := ""
  /-- A position in the device catalog, or `-1`. -/
  deviceIndex : Int := -1
  deriving DecidableEq, Repr, Inhabited

namespace Preferences

/-- The smallest and the largest integer that a setting can hold. -/
def integerBounds : Int × Int := (-0x8000000000000000, 0x7FFFFFFFFFFFFFFF)

/-- The text under a key. -/
def text? (members : Json.Object) (key : String) : Option String :=
  match members.get? key with
  | some (.string s) => some s
  | _ => none

/-- The integer under a key. -/
def integer? (members : Json.Object) (key : String) : Option Int :=
  match members.get? key with
  | some (.number (.integer n)) =>
    if integerBounds.1 ≤ n ∧ n ≤ integerBounds.2 then some n else none
  | _ => none

/-- The settings that an object holds. -/
def load (members : Json.Object) : Preferences where
  lastFilePath := (text? members "last_file_path").getD ""
  libraryDir := (text? members "library_dir").getD ""
  iccDir := (text? members "icc_dir").getD ""
  userArgs := (text? members "user_args").getD ""
  deviceIndex := (integer? members "device_index").getD (-1)

/-- The settings as members, in the order in which they are shown. -/
def members (p : Preferences) : List (String × Json.Value) :=
  [("last_file_path", .string p.lastFilePath), ("library_dir", .string p.libraryDir),
    ("icc_dir", .string p.iccDir), ("user_args", .string p.userArgs),
    ("device_index", .number (.integer p.deviceIndex))]

/-- Writes the settings into an object, whose other members stay. -/
def store (p : Preferences) (object : Json.Object) : Json.Object :=
  p.members.foldl (fun object (key, value) => object.insert key value) object

/-- The settings as they are shown. -/
def render (p : Preferences) : String :=
  (Json.Value.object p.members).render

/-- The record type of the settings. -/
def recordType : Json.RecordType :=
  [("last_file_path", .text), ("library_dir", .text), ("icc_dir", .text), ("user_args", .text),
    ("device_index", .integer integerBounds.1 integerBounds.2)]

/-- The settings that a whole text is. -/
def ofText? (text : String) : Option Preferences :=
  match Json.record? recordType text.toList with
  | some [.text lastFilePath, .text libraryDir, .text iccDir, .text userArgs,
      .integer deviceIndex] => some { lastFilePath, libraryDir, iccDir, userArgs, deviceIndex }
  | _ => none

end Preferences

end EngineTokens
