import EngineTokens.Invocation.Level

/-!
# Mistakes on the command line

Why a list of words is not a command, or asks for an explanation in place of one.
-/

set_option autoImplicit false

namespace EngineTokens.Invocation

/-- What is wrong with the value of an argument. -/
inductive Flaw
  /-- There is none, or it is empty where that is no value. -/
  | missing
  /-- It is none of the words that are accepted. -/
  | unknown (accepted : List String)
  /-- It is not a number of the range. -/
  | unreadable (low high : Int)
  deriving DecidableEq, Repr

/-- Why a list of words is not a command. -/
inductive Mistake
  /-- The value of an argument is not accepted. -/
  | value (argument value : String) (flaw : Flaw)
  /-- A value is attached to an argument that takes none. -/
  | unexpectedValue (argument value : String)
  /-- A word is no argument of the command. -/
  | unknownArgument (word : String)
  /-- A word stands where only a command can stand. -/
  | unknownCommand (word : String)
  /-- An argument is given twice, or beside one that excludes it. -/
  | conflict (argument other : String)
  /-- Arguments that have to be given are missing. -/
  | argumentsMissing (arguments : List String)
  /-- No command is named. -/
  | commandMissing
  /-- Nothing at all is given where a command has to be named. -/
  | nothingGiven (level : Level)
  /-- An explanation of a level is asked for. -/
  | helpWanted (level : Level)
  /-- The version is asked for. -/
  | versionWanted
  deriving DecidableEq, Repr

/-- Text between single quotes. -/
def quoted (text : String) : String :=
  "\x27" ++ text ++ "\x27"

/-- A mistake in words. -/
def Mistake.message : Mistake → String
  | .value argument text flaw =>
    let heading :=
      if text = "" then
        "a value is required for " ++ quoted argument ++ " but none was supplied"
      else "invalid value " ++ quoted text ++ " for " ++ quoted argument
    match flaw with
    | .missing => heading
    | .unknown accepted => heading ++ "\n  [possible values: " ++ ", ".intercalate accepted ++ "]"
    | .unreadable low high =>
      "invalid value " ++ quoted text ++ " for " ++ quoted argument ++ ": not an integer from " ++
        toString low ++ " to " ++ toString high
  | .unexpectedValue argument text =>
    "unexpected value " ++ quoted text ++ " for " ++ quoted argument ++ " found; no more were expected"
  | .unknownArgument word => "unexpected argument " ++ quoted word ++ " found"
  | .unknownCommand word => "unrecognized subcommand " ++ quoted word
  | .conflict argument other =>
    if argument = other then
      "the argument " ++ quoted argument ++ " cannot be used multiple times"
    else "the argument " ++ quoted argument ++ " cannot be used with " ++ quoted other
  | .argumentsMissing arguments =>
    "the following required arguments were not provided:" ++
      String.join (arguments.map fun argument => "\n  " ++ argument)
  | .commandMissing => "a command has to be given"
  | .nothingGiven _ | .helpWanted _ | .versionWanted => ""

end EngineTokens.Invocation
