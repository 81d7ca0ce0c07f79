import EngineTokens.Engine.Channel
import EngineTokens.Engine.Process
import EngineTokens.Engine.Scripted

/-!
# An engine and the printer beside it

The engine and the printer run at the same time. A script is sent by one sender; for a child process
there are two, one for each of its output streams, while the process itself is waited for. A sender
that is done lets go of the queue, and the engine reports its outcome when none is left and the
process has ended. The printer ends when no sender holds the queue any more and the queue is empty.

`Execution.Step` gives the moves that are possible, in any order.
-/

set_option autoImplicit false

namespace EngineTokens.Engine

/-- An engine with all that it will say. -/
inductive Producer
  | scripted (engine : Scripted)
  | process (child : Child)
  deriving Repr

namespace Producer

/-- What each sender sends, in order. -/
def senders : Producer → List (List Event)
  | scripted engine => [engine.script]
  | process child => [child.outEvents, child.errEvents]

/-- There is a process to wait for. -/
def isProcess : Producer → Bool
  | scripted _ => false
  | process _ => true

/-- What the engine reports in the end. -/
def outcome (request : Request) : Producer → Outcome
  | scripted engine => (engine.run request .stays).2.2
  | process child => ⟨request.id, child.status⟩

end Producer

/-- An engine at work and its printer. -/
structure Execution where
  channel : Channel
  /-- The positions of the senders that hold the queue. -/
  holders : List Nat
  /-- The process has not ended yet. -/
  running : Bool
  /-- The printer has not ended yet. -/
  printing : Bool := true
  /-- What the engine has reported. -/
  outcome : Option Outcome := none
  deriving Repr

namespace Execution

/-- An engine that has not begun yet. -/
def start (producer : Producer) : Execution where
  channel := .start producer.senders
  holders := List.range producer.senders.length
  running := producer.isProcess

/-- The engine has reported its outcome and the printer has ended. -/
def isComplete (execution : Execution) : Bool :=
  execution.outcome.isSome && !execution.printing

/-- One move of one party, where the engine reports `outcome` in the end. -/
inductive Step (outcome : Outcome) : Execution → Execution → Prop
  /-- An event goes into the queue or is taken from it. -/
  | exchange {execution : Execution} {channel : Channel} (printing : execution.printing = true)
      (moves : Channel.Step execution.channel channel) :
      Step outcome execution { execution with channel }
  /-- A send is refused because the printer has gone; the sender sends nothing more. -/
  | refused {execution : Execution} {before after : List (List Event)} {event : Event}
      {rest : List Event} (gone : execution.printing = false)
      (sending : execution.channel.senders = before ++ (event :: rest) :: after) :
      Step outcome execution
        { execution with
          channel := { execution.channel with senders := before ++ [] :: after } }
  /-- A sender that is done lets go of the queue. -/
  | release {execution : Execution} {sender : Nat} (holds : sender ∈ execution.holders)
      (done : execution.channel.senders[sender]? = some []) :
      Step outcome execution { execution with holders := execution.holders.erase sender }
  /-- The process ends. -/
  | exit {execution : Execution} (running : execution.running = true) :
      Step outcome execution { execution with running := false }
  /-- The engine reports its outcome. -/
  | report {execution : Execution} (free : execution.holders = [])
      (ended : execution.running = false) (silent : execution.outcome = none) :
      Step outcome execution { execution with outcome := some outcome }
  /-- The printer ends. -/
  | close {execution : Execution} (printing : execution.printing = true)
      (free : execution.holders = []) (empty : execution.channel.queue = []) :
      Step outcome execution { execution with printing := false }

/-- A run can come from one state to another. -/
inductive Reaches (outcome : Outcome) : Execution → Execution → Prop
  | refl (execution : Execution) : Reaches outcome execution execution
  | step {first second third : Execution} :
      Reaches outcome first second → Step outcome second third → Reaches outcome first third

end Execution

end EngineTokens.Engine
