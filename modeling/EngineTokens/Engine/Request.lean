import EngineTokens.Device
import EngineTokens.Display.Page

/-!
# Runs of the engine

What an engine is given for one run, what it hands back while it runs, and how it ends. The contract
is the same for every engine: the token list is final, and a negative status means failure.
-/

set_option autoImplicit false

namespace EngineTokens.Engine

/-- Where the result of a run goes. -/
inductive Output
  /-- Into a file, whose name may hold the engine's placeholder for the page number. -/
  | file (path : RawPath)
  /-- Back to the caller, page by page. -/
  | display
  deriving DecidableEq, Repr

/-- What an engine needs for one run. -/
structure Request where
  /-- Tells runs apart. -/
  id : Nat := 0
  args : List String
  input : RawPath
  output : Output
  deriving DecidableEq, Repr

/-- What an engine produces while it runs. -/
inductive Event
  /-- A line of its output. -/
  | stdout (line : String)
  /-- A line of its error output. -/
  | stderr (line : String)
  /-- A finished page. -/
  | page (page : Display.RawPage)
  deriving DecidableEq, Repr

/-- How a run ended. -/
structure Outcome where
  /-- The run that ended. -/
  id : Nat
  status : Int
  deriving DecidableEq, Repr

namespace Outcome

/-- The run succeeded. -/
def succeeded (outcome : Outcome) : Bool :=
  0 ≤ outcome.status

/-- The exit code that stands for an outcome: zero on success, else the size of the status, as far
as an exit code goes. -/
def exitCode (outcome : Outcome) : Nat :=
  if outcome.succeeded then 0 else min (max outcome.status.natAbs 1) 255

end Outcome

/-- Where a run with a given device and output file puts its result. -/
def Output.of (device outputFile : String) : Except Error Output :=
  if outputFile ≠ "" then .ok (.file outputFile)
  else if Device.isDisplay device then .ok .display
  else
    .error (.unsupported .outputFile
      ("the " ++ device ++ " device needs an output file; pass --output"))

end EngineTokens.Engine
