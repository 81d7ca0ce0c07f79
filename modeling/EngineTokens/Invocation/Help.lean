import EngineTokens.Invocation.Grammar

/-!
# Explaining the command line

The text shown for a level when help is asked for, and what is printed for a mistake.
-/

set_option autoImplicit false

namespace EngineTokens.Invocation

/-- The program with its version. -/
def version : String := "gsargs 0.3.0"

/-- One line of a list in an explanation. -/
def item (text : String) : String :=
  "\n  " ++ text

/-- A named argument in an explanation. -/
def Argument.explained (argument : Argument) : String :=
  match argument.letter with
  | some c => String.ofList ['-', c, ',', ' '] ++ argument.shown
  | none => "    " ++ argument.shown

/-- The explanation of a level. -/
def Level.help (level : Level) : String :=
  let positional := String.join (level.positional.map fun a => " <" ++ a.name ++ ">")
  let below := if level.commands.isEmpty then "" else " <COMMAND>"
  let listed :=
    if level.commands.isEmpty then ""
    else "\n\nCommands:" ++
      String.join (level.commands.map fun (name, child) => item (name ++ ": " ++ child.purpose))
  level.purpose ++ "\n\nUsage: " ++ " ".intercalate level.words ++ " [OPTIONS]" ++ positional ++
    below ++ listed ++ "\n\nOptions:" ++
    String.join (level.arguments.map fun argument => item argument.explained) ++ "\n"

/-- What is printed for a mistake. -/
def Mistake.report : Mistake → String
  | .nothingGiven level | .helpWanted level => level.help
  | .versionWanted => version ++ "\n"
  | mistake =>
    "error: " ++ mistake.message ++ "\n\nFor more information, try " ++ quoted "--help" ++ ".\n"

/-- A word list that asks for an explanation is answered, and is no failure. -/
def Mistake.isAnswer : Mistake → Bool
  | .helpWanted _ | .versionWanted => true
  | _ => false

end EngineTokens.Invocation
