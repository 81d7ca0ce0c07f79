import EngineTokens.Advice
import EngineTokens.Invocation.Help
import EngineTokens.Invocation.Reader
import EngineTokens.Session.Arguments
import EngineTokens.Session.Run
import EngineTokens.Settings.Location

/-!
# Carrying out a command

Every command starts from the settings file, which has to be readable even where the command does
not need it. A failure is told to the user with advice, and the exit code is then two.
-/

set_option autoImplicit false

namespace EngineTokens

/-- Looks at the settings or changes one. A change that is refused leaves the file alone. -/
def SettingsCommand.perform (files : Files) (store : Store) : SettingsCommand → Report
  | .print => .said files [store.preferences.render]
  | .location => .said files [Path.shown store.path]
  | .change key value =>
    match store.preferences.change key value with
    | .error e => .failed files e
    | .ok changed =>
      match (store.record changed).save files with
      | (files, .error e) => .failed files e
      | (files, .ok ()) => .said files []

/-- Carries out a command on an opened settings file. -/
def Command.perform (spawn : Engine.Spawn) (files : Files) (env : Environment) (store : Store) :
    Command → Report
  | .args c => c.perform files store.preferences
  | .run c => c.perform spawn files env store
  | .settings c => c.perform files store

/-- The settings file that a command uses. -/
def Invocation.settingsPath (env : Environment) (invocation : Invocation) : RawPath :=
  invocation.settings.getD env.settingsPath

/-- Carries out a command. -/
def Invocation.perform (spawn : Engine.Spawn) (files : Files) (env : Environment)
    (invocation : Invocation) : Report :=
  match Store.openAt files (invocation.settingsPath env) with
  | .error e => .failed files e
  | .ok store => invocation.command.perform spawn files env store

/-- What a whole run of the program leaves behind. -/
structure Ending where
  files : Files
  code : Nat
  out : String
  err : String
  deriving DecidableEq, Repr

/-- The exit code of a run that could not do what was asked. -/
def failureCode : Nat := 2

/-- A failure as it is told to the user. -/
def Advice.lines (advice : Advice) : List String :=
  ["error: " ++ advice.message, "  " ++ advice.suggestion]

/-- Tells how a command ended. -/
def Report.ending (report : Report) : Ending :=
  let (code, told) :=
    match report.result with
    | .ok code => (code, [])
    | .error e => (failureCode, e.advice.lines)
  { files := report.files
    code
    out := Engine.Printed.text report.printed.out
    err := Engine.Printed.text (report.printed.err ++ told) }

/-- Runs the program on the words of a command line, on a machine that starts engines by `spawn`. -/
def runProgram (spawn : Engine.Spawn) (files : Files) (env : Environment) (words : List String) :
    Ending :=
  match Invocation.read words with
  | .ok invocation => (invocation.perform spawn files env).ending
  | .error mistake =>
    if mistake.isAnswer then { files, code := 0, out := mistake.report, err := "" }
    else { files, code := failureCode, out := "", err := mistake.report }

end EngineTokens
