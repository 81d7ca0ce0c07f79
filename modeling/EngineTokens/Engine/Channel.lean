import EngineTokens.Engine.Printer

/-!
# The queue between an engine and the printer

An engine and the printer run at the same time and share a queue of events that holds sixty-four of
them. A sender waits while the queue is full, and the printer waits while it is empty; the printer
ends when every sender is done and the queue is empty. Several senders may use the queue at once,
one for each stream of a child process.

`Channel.Step` gives the moves that are possible, in any order.
-/

set_option autoImplicit false

namespace EngineTokens.Engine

/-- A running exchange: what each sender has still to send, the queue, and what the printer made of
the events it took. -/
structure Channel where
  senders : List (List Event)
  queue : List Event := []
  shown : Shown := {}
  deriving Repr

namespace Channel

/-- How many events the queue holds. -/
def capacity : Nat := 64

/-- An exchange at its start. -/
def start (senders : List (List Event)) : Channel :=
  { senders }

/-- One move of one party. -/
inductive Step : Channel → Channel → Prop
  /-- A sender puts its next event into a queue that has room. -/
  | send (before after : List (List Event)) (event : Event) (rest queue : List Event)
      (shown : Shown) (room : queue.length < capacity) :
      Step ⟨before ++ (event :: rest) :: after, queue, shown⟩
        ⟨before ++ rest :: after, queue ++ [event], shown⟩
  /-- The printer takes the oldest event of the queue. -/
  | receive (senders : List (List Event)) (event : Event) (queue : List Event) (shown : Shown) :
      Step ⟨senders, event :: queue, shown⟩ ⟨senders, queue, shown.take event⟩

end Channel

end EngineTokens.Engine
