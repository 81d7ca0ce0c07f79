import EngineTokens.Files.Change
import EngineTokens.Settings.Preferences
import EngineTokens.Text.Utf8

/-!
# The settings file

A file with one JSON object. A file that is missing counts as an empty object. Saving makes the
directories above the file where they are missing.
-/

set_option autoImplicit false

namespace EngineTokens

/-- A settings file, as it was opened and changed. -/
structure Store where
  path : RawPath
  values : Json.Object
  deriving Repr

namespace Store

/-- The object that the text of a settings file is. -/
def readObject (path : RawPath) (text : String) : Except Error Json.Object :=
  match Json.parse? text.toList with
  | none => .error (.serialization "the text is not well-formed JSON")
  | some (.object members) => .ok members
  | some other =>
    .error (.settings ("expected a JSON object in " ++ Path.shown path ++ ", found " ++ other.kind))

/-- Opens a settings file. -/
def openAt (files : Files) (path : RawPath) : Except Error Store :=
  if files.doesExist path then
    match files.read path with
    | .error fault => .error fault.toError
    | .ok bytes =>
      match Text.Utf8.decode? bytes with
      | none => .error Fault.notText.toError
      | some text => (readObject path (String.ofList text)).map fun values => { path, values }
  else .ok { path, values := [] }

/-- The text under a key. -/
def text? (store : Store) (key : String) : Option String :=
  Preferences.text? store.values key

/-- The integer under a key. -/
def integer? (store : Store) (key : String) : Option Int :=
  Preferences.integer? store.values key

/-- Sets a text. -/
def setText (store : Store) (key value : String) : Store :=
  { store with values := store.values.insert key (.string value) }

/-- Sets an integer. -/
def setInteger (store : Store) (key : String) (value : Int) : Store :=
  { store with values := store.values.insert key (.number (.integer value)) }

/-- The settings that the file holds. -/
def preferences (store : Store) : Preferences :=
  .load store.values

/-- Writes the settings into the store. -/
def record (store : Store) (p : Preferences) : Store :=
  { store with values := p.store store.values }

/-- The text that is saved. -/
def text (store : Store) : String :=
  (Json.Value.object store.values).render

/-- Saves the file. -/
def save (files : Files) (store : Store) : Files × Except Error Unit :=
  let (files, refusal) :=
    match Path.parent? store.path with
    | some parent => files.makeDirectories parent
    | none => (files, none)
  match refusal with
  | some fault => (files, .error fault.toError)
  | none =>
    match files.write store.path (Text.Utf8.encode store.text.toList) with
    | .ok written => (written, .ok ())
    | .error fault => (files, .error fault.toError)

end Store

end EngineTokens
