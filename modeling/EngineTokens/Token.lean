import EngineTokens.Text.Integer

/-!
# Tokens of the engine's command line

A token defines a name (`-dName`, `-dName=value`, `-sName=value`) or adds to the search path
(`-Idir`). A field yields a token only where its value differs from the field's default, so every
function here takes both and returns no token or one.
-/

set_option autoImplicit false

namespace EngineTokens.Token

/-- A token name that ends in `=` takes its value inline. -/
def takesValue (name : String) : Bool :=
  name.toList.getLast? == some '='

/-- The words for the two truth values. -/
def truth (value : Bool) : String :=
  if value then "true" else "false"

/-- The token of a truth value: with the value where the name takes one, else the bare name. -/
def flag (name : String) (value : Bool) : String :=
  if takesValue name then name ++ truth value else name

/-- The token of a text, which follows the name as it is. -/
def text (name value : String) : String :=
  name ++ value

/-- The token of an integer, in decimal. -/
def number (name : String) (value : Int) : String :=
  name ++ String.ofList (Text.Integer.write value)

/-- The token of a truth value that differs from its default. -/
def flagUnless (default value : Bool) (name : String) : List String :=
  if value = default then [] else [flag name value]

/-- The token of a text that differs from its default. -/
def textUnless (default value : String) (name : String) : List String :=
  if value = default then [] else [text name value]

/-- The token of an integer that differs from its default. -/
def numberUnless (default value : Int) (name : String) : List String :=
  if value = default then [] else [number name value]

/-- The token starts with `start`. -/
def startsWith (start token : String) : Bool :=
  start.toList.isPrefixOf token.toList

/-- The tokens every engine run starts from. They state the defaults `quiet` and `batch`, so a model
names these two only to turn them off. -/
def baseline : List String := ["-dQUIET", "-dBATCH"]

end EngineTokens.Token
