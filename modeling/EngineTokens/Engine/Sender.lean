import EngineTokens.Engine.Request

/-!
# Sending to a receiver that may go away

Lines are sent as they are read. Once a send is refused because the receiver has gone, no further
one is tried, but reading goes on to the end of the stream, so that the engine never blocks on a
full pipe.
-/

set_option autoImplicit false

namespace EngineTokens.Engine

/-- A receiver of events: how many more it takes before it goes away, or that it stays. -/
inductive Receiver
  | stays
  | takes (count : Nat)
  deriving DecidableEq, Repr

/-- Whether the receiver takes one more event, and what it is afterwards. -/
def Receiver.accept : Receiver → Bool × Receiver
  | .stays => (true, .stays)
  | .takes 0 => (false, .takes 0)
  | .takes (count + 1) => (true, .takes count)

/-- What became of a list of events. -/
structure Sent where
  /-- The events that arrived, in order. -/
  received : List Event := []
  /-- How many sends were tried. -/
  attempts : Nat := 0
  /-- How many events were read, sent or not. -/
  consumed : Nat := 0
  /-- The sender still tries. -/
  listening : Bool := true
  deriving DecidableEq, Repr, Inhabited

/-- Reads events to their end and sends each as long as no send was refused. -/
def forward (receiver : Receiver) (sent : Sent) : List Event → Sent
  | [] => sent
  | event :: rest =>
    if sent.listening then
      match receiver.accept with
      | (true, receiver) =>
        forward receiver { sent with
          received := sent.received ++ [event]
          attempts := sent.attempts + 1
          consumed := sent.consumed + 1 } rest
      | (false, receiver) =>
        forward receiver { sent with
          attempts := sent.attempts + 1
          consumed := sent.consumed + 1
          listening := false } rest
    else forward receiver { sent with consumed := sent.consumed + 1 } rest

/-- Sends a list of events to a receiver. -/
def send (receiver : Receiver) (events : List Event) : Sent :=
  forward receiver {} events

end EngineTokens.Engine
