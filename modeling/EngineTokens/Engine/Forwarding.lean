import EngineTokens.Engine.Process

/-!
# A child whose receiver may go away

A child writes to two pipes, in an order of its own, and waits while the pipe it is to write to is
full. Each pipe has a task that reads it to its end and sends its lines to the receiver through a
queue; a task reads on when it has dealt with the lines at hand. The receiver may go away at any
time. A send that waits for room is then refused, as is the next one of each task, and what waits in
the queue is lost. The outcome is reported when both tasks are done and the child has ended, with
the status that it ended with.

`Forwarding.Step` gives the moves that are possible, in any order.
-/

set_option autoImplicit false

namespace EngineTokens.Engine

/-- Reads a stream that arrives in chunks to its end and sends each of its lines as an event. -/
def forwardLines (receiver : Receiver) (wrap : String → Event) (chunks : List (List UInt8)) : Sent :=
  send receiver ((Buffer.stream {} chunks).map wrap)

/-- The two streams of a child. -/
inductive Side
  | out
  | err
  deriving DecidableEq, Repr

/-- The event of a line. -/
def Side.wrap : Side → String → Event
  | .out => .stdout
  | .err => .stderr

/-- All that a child writes to a stream. -/
def Child.stream (child : Child) : Side → List UInt8
  | .out => child.out
  | .err => child.err

/-- What of a list of writes goes to one stream. -/
def writesTo (side : Side) (writes : List (Side × UInt8)) : List UInt8 :=
  writes.filterMap fun (other, b) => if other = side then some b else none

/-- How many events the queue holds, and how many bytes a pipe. -/
structure Limits where
  queue : Nat
  pipe : Nat
  queue_pos : 0 < queue := by decide
  pipe_pos : 0 < pipe := by decide

/-- A pipe and the task that reads it. -/
structure Relay where
  pipe : List UInt8 := []
  /-- The line whose end has not been read. -/
  buffer : Buffer := {}
  /-- The lines that were read and not dealt with yet. -/
  lines : List String := []
  /-- The end of the stream has been read. -/
  ended : Bool := false
  /-- What became of the lines that were dealt with. -/
  sent : Sent := {}
  deriving DecidableEq, Repr

namespace Relay

/-- Reads a chunk and leaves the rest in the pipe. -/
def read (relay : Relay) (chunk rest : List UInt8) : Relay :=
  { relay with
    pipe := rest
    buffer := (relay.buffer.feed chunk).1
    lines := (relay.buffer.feed chunk).2 }

/-- Reads the end of the stream. -/
def finish (relay : Relay) : Relay :=
  { relay with buffer := {}, lines := relay.buffer.finish, ended := true }

/-- Deals with one event, with the given lines after it. -/
def deal (relay : Relay) (receiver : Receiver) (event : Event) (rest : List String) : Relay :=
  { relay with lines := rest, sent := forward receiver relay.sent [event] }

/-- The task has returned. -/
def isDone (relay : Relay) : Bool :=
  relay.ended && relay.lines.isEmpty

end Relay

/-- A child at work, the two tasks and the receiver. -/
structure Forwarding where
  /-- What the child has still to write, in order. -/
  writes : List (Side × UInt8)
  relay : Side → Relay := fun _ => {}
  queue : List Event := []
  /-- The events that the receiver has taken. -/
  taken : List Event := []
  /-- The receiver has gone. -/
  gone : Bool := false
  /-- The status of the child, once it has ended. -/
  status : Option Int := none
  /-- What has been reported. -/
  outcome : Option Outcome := none

namespace Forwarding

/-- The same with another relay on one side. -/
def set (state : Forwarding) (side : Side) (relay : Relay) : Forwarding :=
  { state with relay := fun other => if other = side then relay else state.relay other }

/-- The outcome has been reported. -/
def isComplete (state : Forwarding) : Bool :=
  state.outcome.isSome

/-- One move of one party, where the child is one that was started for the request. -/
inductive Step (limits : Limits) (request : Request) (child : Child) :
    Forwarding → Forwarding → Prop
  /-- The child writes a byte into a pipe that has room. -/
  | write {state : Forwarding} {side : Side} {b : UInt8} {rest : List (Side × UInt8)}
      (next : state.writes = (side, b) :: rest)
      (room : (state.relay side).pipe.length < limits.pipe) :
      Step limits request child state
        ({ state with writes := rest }.set side
          { state.relay side with pipe := (state.relay side).pipe ++ [b] })
  /-- A task reads what it finds in its pipe, or the first part of it. -/
  | read {state : Forwarding} {side : Side} {chunk rest : List UInt8}
      (idle : (state.relay side).lines = []) (found : chunk ≠ [])
      (waits : (state.relay side).pipe = chunk ++ rest) :
      Step limits request child state (state.set side ((state.relay side).read chunk rest))
  /-- A task reads the end of a stream that is written out. The child may close it then, and does so
  by its end. -/
  | finish {state : Forwarding} {side : Side} (written : writesTo side state.writes = [])
      (drained : (state.relay side).pipe = []) (idle : (state.relay side).lines = [])
      (unended : (state.relay side).ended = false) :
      Step limits request child state (state.set side (state.relay side).finish)
  /-- A task sends a line into a queue that has room. -/
  | send {state : Forwarding} {side : Side} {line : String} {rest : List String}
      (next : (state.relay side).lines = line :: rest)
      (listening : (state.relay side).sent.listening = true) (here : state.gone = false)
      (room : state.queue.length < limits.queue) :
      Step limits request child state
        ({ state with queue := state.queue ++ [side.wrap line] }.set side
          ((state.relay side).deal (.takes 1) (side.wrap line) rest))
  /-- A send is refused because the receiver has gone. -/
  | refused {state : Forwarding} {side : Side} {line : String} {rest : List String}
      (next : (state.relay side).lines = line :: rest)
      (listening : (state.relay side).sent.listening = true) (gone : state.gone = true) :
      Step limits request child state
        (state.set side ((state.relay side).deal (.takes 0) (side.wrap line) rest))
  /-- A task that was refused once passes over a line. -/
  | pass {state : Forwarding} {side : Side} {line : String} {rest : List String}
      (next : (state.relay side).lines = line :: rest)
      (deaf : (state.relay side).sent.listening = false) :
      Step limits request child state
        (state.set side ((state.relay side).deal (.takes 0) (side.wrap line) rest))
  /-- The receiver takes the oldest event of the queue. -/
  | receive {state : Forwarding} {event : Event} {rest : List Event} (here : state.gone = false)
      (next : state.queue = event :: rest) :
      Step limits request child state { state with queue := rest, taken := state.taken ++ [event] }
  /-- The receiver goes away. -/
  | leave {state : Forwarding} (here : state.gone = false) :
      Step limits request child state { state with gone := true, queue := [] }
  /-- The child ends. -/
  | exit {state : Forwarding} (written : state.writes = []) (running : state.status = none) :
      Step limits request child state { state with status := some child.status }
  /-- The outcome is reported. -/
  | report {state : Forwarding} {status : Int} (done : ∀ side, (state.relay side).isDone = true)
      (ended : state.status = some status) (silent : state.outcome = none) :
      Step limits request child state { state with outcome := some ⟨request.id, status⟩ }

/-- A run can come from one state to another. -/
inductive Reaches (limits : Limits) (request : Request) (child : Child) :
    Forwarding → Forwarding → Prop
  | refl (state : Forwarding) : Reaches limits request child state state
  | step {first second third : Forwarding} :
      Reaches limits request child first second → Step limits request child second third →
      Reaches limits request child first third

end Forwarding

end EngineTokens.Engine
