import EngineTokens.Engine.Sender

/-!
# An engine that follows a script

It sends a fixed list of events, ends with a fixed status and records every request. Callers are
tried out with it where no engine is installed.
-/

set_option autoImplicit false

namespace EngineTokens.Engine

/-- An engine that follows a script. -/
structure Scripted where
  script : List Event
  status : Int
  /-- The requests so far, oldest first. -/
  requests : List Request := []
  deriving DecidableEq, Repr

namespace Scripted

/-- Sends events until one is refused. -/
def deliver (receiver : Receiver) : List Event → List Event
  | [] => []
  | event :: rest =>
    match receiver.accept with
    | (true, receiver) => event :: deliver receiver rest
    | (false, _) => []

/-- Runs a request: the engine afterwards, the events that arrived, and the outcome. -/
def run (engine : Scripted) (request : Request) (receiver : Receiver) :
    Scripted × List Event × Outcome :=
  ({ engine with requests := engine.requests ++ [request] },
    deliver receiver engine.script,
    ⟨request.id, engine.status⟩)

end Scripted

end EngineTokens.Engine
