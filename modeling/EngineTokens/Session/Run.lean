import EngineTokens.Engine.Process
import EngineTokens.Invocation.Command
import EngineTokens.Options.Build
import EngineTokens.Session.Report
import EngineTokens.Settings.Store

/-!
# Running the engine on a document

A run is planned in full before anything is changed. A plan can be shown as a command line; to carry
it out, its choices are saved first, so that the next run starts from them, and then the engine is
started.
-/

set_option autoImplicit false

namespace EngineTokens

/-- A run that is ready to start. -/
structure Plan where
  /-- The output device. -/
  device : String
  request : Engine.Request
  /-- The engine's executable. -/
  executable : RawPath
  deriving DecidableEq, Repr

namespace RunCommand

/-- Plans a run: the model is built, a device has to be chosen, the result needs a place to go, and
the tokens are written. -/
def plan (files : Files) (saved : Preferences) (c : RunCommand) : Except Error Plan := do
  let model ← c.options.build files saved
  let base := model.basis
  if base.device = "" then
    throw (.unsupported .device "no output device selected; pass --device or --device-index")
  let output ← Engine.Output.of base.device base.outputFile
  let args ← c.options.tokens files saved model
  return {
    device := base.device
    request := { args, input := c.input, output }
    executable := c.executable.getD (Engine.locate saved.libraryDir) }

/-- The directory of a profile named by an option, unless it is the one at hand. -/
def profileDirectory? (c : RunCommand) : Option RawPath :=
  match c.options.conformance.iccProfile with
  | some path => (Path.parent? path).filter fun directory => directory != []
  | none => none

/-- The settings with the choices of a run on a given device. -/
def remember (c : RunCommand) (device : String) (saved : Preferences) : Preferences :=
  { saved with
    lastFilePath := Path.canonicalize (Path.shown c.input)
    deviceIndex :=
      match Device.position? device with
      | some index => (index : Int)
      | none => saved.deviceIndex
    iccDir :=
      match c.profileDirectory? with
      | some directory => Path.canonicalize (Path.shown directory)
      | none => saved.iccDir }

end RunCommand

namespace Plan

/-- The command line of a plan as one line of text. -/
def shown (plan : Plan) : Except Error String :=
  (Engine.commandLine plan.request).map fun args =>
    Path.shown plan.executable ++ " " ++ " ".intercalate args

/-- Starts the engine and prints what it says. -/
def execute (spawn : Engine.Spawn) (files : Files) (env : Environment) (plan : Plan) : Report :=
  match Engine.runProcess spawn files env plan.executable plan.request with
  | .error e => .failed files e
  | .ok (child, outcome, files) =>
    let shown := Engine.Shown.takeAll {} (child.outEvents ++ child.errEvents)
    { files, printed := shown.printed, result := .ok outcome.exitCode }

end Plan

/-- Runs the engine, or shows how it would be run. -/
def RunCommand.perform (spawn : Engine.Spawn) (files : Files) (env : Environment) (store : Store)
    (c : RunCommand) : Report :=
  match c.plan files store.preferences with
  | .error e => .failed files e
  | .ok plan =>
    if c.dryRun then
      match plan.shown with
      | .error e => .failed files e
      | .ok line => .said files [line]
    else
      let remembered := c.remember plan.device store.preferences
      match (store.record remembered).save files with
      | (files, .error e) => .failed files e
      | (files, .ok ()) => plan.execute spawn files env

end EngineTokens
