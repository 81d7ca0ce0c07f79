import EngineTokens.Engine.CommandLine
import EngineTokens.Engine.Lines
import EngineTokens.Engine.Sender
import EngineTokens.Files.Tree
import EngineTokens.Settings.Location

/-!
# The engine as a child process

The executable is started with the command line of the request, and its two output streams are sent
on line by line. Exit codes above zero become negative statuses, and a child that was killed counts
as status minus one. What an executable does is up to the machine, which is given by a `Spawn`.
-/

set_option autoImplicit false

namespace EngineTokens.Engine

/-- What a child process left behind. -/
structure Child where
  out : List UInt8
  err : List UInt8
  /-- The exit code, unless the child was killed. -/
  exit : Option Nat
  deriving DecidableEq, Repr

namespace Child

/-- The status of a child that has ended. -/
def status (child : Child) : Int :=
  match child.exit with
  | some code => -(code : Int)
  | none => -1

/-- The events of its output. -/
def outEvents (child : Child) : List Event :=
  (linesOf child.out).map .stdout

/-- The events of its error output. -/
def errEvents (child : Child) : List Event :=
  (linesOf child.err).map .stderr

end Child

/-- How the machine starts an executable with some arguments: the child, which has run to its end,
and the files as it left them, or why it could not be started. -/
abbrev Spawn := Files → Environment → RawPath → List String → Except Fault (Child × Files)

/-- Runs a request on an executable: the child, the outcome, and the files as they are then. -/
def runProcess (spawn : Spawn) (files : Files) (env : Environment) (executable : RawPath)
    (request : Request) : Except Error (Child × Outcome × Files) := do
  let argv ← commandLine request
  match spawn files env executable argv with
  | .error fault =>
    .error (.engine ("failed to start " ++ Path.shown executable ++ ": " ++ fault.message))
  | .ok (child, files) => return (child, ⟨request.id, child.status⟩, files)

end EngineTokens.Engine
