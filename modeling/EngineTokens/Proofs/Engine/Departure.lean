import EngineTokens.Proofs.Engine.Relays
import Mathlib.Order.WellFounded

/-!
# A receiver that goes away

A child and the two tasks that read its streams can always go on, with the receiver or without it
(`exists_step`), and do not go on for ever (`weight_step`), so all that the child says is read and
its status is reported. What the receiver has taken comes first of the lines of each stream
(`Sound.taken`), and once it has gone, it takes nothing and each task is refused at most once
(`attempts_of_reaches`).
-/

set_option autoImplicit false

namespace EngineTokens.Engine

/-! ## Both streams -/

namespace Forwarding

variable {limits : Limits} {request : Request} {child : Child} {state next later : Forwarding}

/-- Setting one stream leaves the other as it is. -/
theorem relay_set (state : Forwarding) (side other : Side) (relay : Relay) :
    (state.set side relay).relay other = if other = side then relay else state.relay other :=
  rfl

/-- What a step does to one stream it does, with nothing to the other stream. -/
theorem moves_set {side : Side} {relay : Relay} {writes : List (Side × UInt8)}
    (moves : Relay.Moves side state.gone (writesTo side writes) (state.relay side)
      (writesTo side writes) relay) (other : Side) :
    Relay.Moves other state.gone (writesTo other writes) (state.relay other)
      (writesTo other writes) ((state.set side relay).relay other) := by
  rw [relay_set]
  split
  · subst other
    exact moves
  · exact .rest _ _

/-- A step does one thing to each stream. -/
theorem moves_of_step (steps : Step limits request child state next) (side : Side) :
    Relay.Moves side state.gone (writesTo side state.writes) (state.relay side)
      (writesTo side next.writes) (next.relay side) := by
  cases steps with
  | @write other b rest next room =>
    rw [next, writesTo_cons, relay_set]
    by_cases same : side = other
    · subst same
      rw [if_pos rfl, if_pos rfl]
      exact .write b _ _
    · rw [if_neg (Ne.symm same), if_neg same]
      exact .rest _ _
  | read idle found waits => exact moves_set (.read idle found waits) side
  | @finish other written drained idle unended =>
    refine moves_set ?_ side
    rw [written]
    exact .finish drained idle unended
  | send next listening here => exact moves_set (.send next listening here) side
  | refused next listening left => exact moves_set (.refused next listening left) side
  | pass next deaf => exact moves_set (.pass next deaf) side
  | receive => exact .rest _ _
  | leave => exact .rest _ _
  | exit => exact .rest _ _
  | report => exact .rest _ _

/-- A receiver that has gone does not come back. -/
theorem gone_of_step (steps : Step limits request child state next) (left : state.gone = true) :
    next.gone = true := by
  cases steps with
  | leave => rfl
  | _ => exact left

/-- A receiver that has gone takes nothing. -/
theorem taken_of_step (steps : Step limits request child state next) (left : next.gone = true) :
    next.taken = state.taken := by
  cases steps with
  | receive here =>
    have stays : state.gone = true := left
    rw [here] at stays
    cases stays
  | _ => rfl

/-- A child that has written everything writes no more. -/
theorem writes_of_step (steps : Step limits request child state next)
    (written : state.writes = []) : next.writes = [] := by
  cases steps with
  | write next =>
    rw [written] at next
    cases next
  | _ => exact written

/-- A child ends with its own status, once it has written everything. -/
theorem status_of_step (steps : Step limits request child state next) {status : Int}
    (ended : next.status = some status) :
    state.status = some status ∨ (status = child.status ∧ state.writes = []) := by
  cases steps with
  | exit written =>
    cases ended
    exact .inr ⟨rfl, written⟩
  | _ => exact .inl ended

/-- An outcome is reported when both tasks have returned and the child has ended. -/
theorem outcome_of_step (steps : Step limits request child state next) {told : Outcome}
    (reported : next.outcome = some told) :
    state.outcome = some told ∨ (∃ status, state.status = some status ∧
      told = ⟨request.id, status⟩ ∧ ∀ side, (state.relay side).isDone = true) := by
  cases steps with
  | report done ended =>
    cases reported
    exact .inr ⟨_, ended, rfl, done⟩
  | _ => exact .inl reported

/-- The lines of one stream that the receiver has taken, and those that wait for it. -/
def arrived (state : Forwarding) (side : Side) : List String :=
  (state.taken ++ state.queue).filterMap side.line?

/-- The lines of one stream that were sent. -/
def sentLines (state : Forwarding) (side : Side) : List String :=
  (state.relay side).sent.received.filterMap side.line?

/-- What one task sends is added to the lines of its stream. -/
theorem sentLines_set {side : Side} {relay : Relay} {lines : List String}
    (sent : relay.sent.received.filterMap side.line? = state.sentLines side ++ lines)
    (other : Side) :
    (state.set side relay).sentLines other =
      state.sentLines other ++ if side = other then lines else [] := by
  rw [sentLines, relay_set]
  split
  · subst other
    rw [sent, if_pos rfl]
  · rw [if_neg (Ne.symm ‹_›), List.append_nil, sentLines]

/-- Where a task sends nothing, the lines stay as they are. -/
theorem sentLines_set_of_eq {side : Side} {relay : Relay}
    (same : relay.sent.received = (state.relay side).sent.received) (other : Side) :
    (state.set side relay).sentLines other = state.sentLines other := by
  have nothing : relay.sent.received.filterMap side.line? = state.sentLines side ++ [] := by
    rw [same, sentLines, List.append_nil]
  rw [sentLines_set nothing, ite_self, List.append_nil]

/-- As long as the receiver is there, what is sent waits in the queue until it is taken. -/
theorem arrived_of_step (steps : Step limits request child state next) (here : next.gone = false)
    (before : ∀ side, state.arrived side = state.sentLines side) (side : Side) :
    next.arrived side = next.sentLines side := by
  cases steps with
  | write | read | finish =>
    rw [sentLines_set_of_eq]
    · exact before side
    · rfl
  | @send other line rest _ listening =>
    have sent : ((state.relay other).deal (.takes 1) (other.wrap line) rest).sent.received.filterMap
        other.line? = state.sentLines other ++ [line] := by
      rw [Relay.received_deal_takes_one listening, List.filterMap_append, sentLines]
      simp [Side.line?_wrap]
    have waits : (state.taken ++ (state.queue ++ [other.wrap line])).filterMap side.line? =
        state.arrived side ++ if other = side then [line] else [] := by
      rw [← List.append_assoc, List.filterMap_append, arrived]
      by_cases same : other = side <;> simp [Side.line?_wrap, same]
    rw [before side] at waits
    exact waits.trans (sentLines_set sent side).symm
  | refused | pass =>
    rw [sentLines_set_of_eq (Relay.received_deal_takes_zero _ _ _)]
    exact before side
  | @receive event rest _ next =>
    have same : state.taken ++ [event] ++ rest = state.taken ++ state.queue := by simp [next]
    rw [arrived, same]
    exact before side
  | leave => cases here
  | exit => exact before side
  | report => exact before side

/-- What holds all along a run. -/
structure Sound (request : Request) (child : Child) (state : Forwarding) : Prop where
  relays : ∀ side, (state.relay side).Sound side (child.stream side) (writesTo side state.writes)
  /-- A task gives up only when the receiver has gone. -/
  deaf : ∀ side, (state.relay side).sent.listening = false → state.gone = true
  arrived : state.gone = false → ∀ side, state.arrived side = state.sentLines side
  taken : ∀ side, state.taken.filterMap side.line? <+: state.sentLines side
  ended : ∀ {status : Int}, state.status = some status → status = child.status ∧ state.writes = []
  reported : ∀ {told : Outcome}, state.outcome = some told →
    told = ⟨request.id, child.status⟩ ∧ state.writes = [] ∧
      ∀ side, (state.relay side).isDone = true

/-- At the start nothing has been written, sent or taken. -/
theorem sound_start {writes : List (Side × UInt8)} (request : Request)
    (made : ∀ side, writesTo side writes = child.stream side) :
    Sound request child { writes } where
  relays := fun side => by
    rw [made side]
    exact Relay.sound_start side _
  deaf := fun _ silent => by cases silent
  arrived := fun _ _ => rfl
  taken := fun _ => List.prefix_refl _
  ended := fun ended => by cases ended
  reported := fun told => by cases told

/-- A step keeps what holds all along a run. -/
theorem Sound.step (sound : Sound request child state)
    (steps : Step limits request child state next) : Sound request child next := by
  have moves := moves_of_step steps
  have arrived : next.gone = false → ∀ side, next.arrived side = next.sentLines side := by
    intro here
    have before : state.gone = false := by
      cases left : state.gone with
      | false => rfl
      | true => exact (gone_of_step steps left).symm.trans here
    exact arrived_of_step steps here (sound.arrived before)
  refine ⟨fun side => (sound.relays side).moves (moves side), ?_, arrived, ?_, ?_, ?_⟩
  · intro side deaf
    obtain already | left := (moves side).deaf deaf
    · exact gone_of_step steps (sound.deaf side already)
    · exact gone_of_step steps left
  · intro side
    -- What was taken comes first of what has arrived. Once the receiver has gone, it stays as it is,
    -- and what was sent only grows.
    cases left : next.gone with
    | false =>
      rw [← arrived left side]
      exact (List.prefix_append _ _).filterMap _
    | true =>
      rw [taken_of_step steps left]
      exact (sound.taken side).trans ((moves side).received.filterMap _)
  · intro status ended
    obtain before | ⟨rfl, written⟩ := status_of_step steps ended
    · exact (sound.ended before).imp_right (writes_of_step steps)
    · exact ⟨rfl, writes_of_step steps written⟩
  · intro told reported
    -- Whether it is reported now or was before, both tasks have returned and stay so.
    have done : told = ⟨request.id, child.status⟩ ∧ state.writes = [] ∧
        ∀ side, (state.relay side).isDone = true := by
      obtain before | ⟨status, ended, rfl, done⟩ := outcome_of_step steps reported
      · exact sound.reported before
      · obtain ⟨rfl, written⟩ := sound.ended ended
        exact ⟨rfl, written, done⟩
    refine ⟨done.1, writes_of_step steps done.2.1, fun side => ?_⟩
    rw [(sound.relays side).eq_of_isDone (done.2.2 side) (moves side)]
    exact done.2.2 side

/-- So it holds of every state of a run, by induction on its steps. -/
theorem Sound.reaches (sound : Sound request child state)
    (reaches : Reaches limits request child state later) : Sound request child later := by
  induction reaches with
  | refl => exact sound
  | step _ steps ih => exact ih.step steps

/-- Once the receiver has gone, it takes nothing, and each task tries one more send at most. -/
theorem attempts_of_reaches (reaches : Reaches limits request child state later)
    (left : state.gone = true) :
    later.gone = true ∧ later.taken = state.taken ∧ ∀ side,
      (later.relay side).sent.attempts + (later.relay side).sent.listening.toNat ≤
        (state.relay side).sent.attempts + (state.relay side).sent.listening.toNat := by
  induction reaches with
  | refl => exact ⟨left, rfl, fun _ => Nat.le_refl _⟩
  | step _ steps ih =>
    obtain ⟨still, taken, attempts⟩ := ih
    have gone := gone_of_step steps still
    refine ⟨gone, (taken_of_step steps gone).trans taken, fun side => ?_⟩
    have moves := moves_of_step steps side
    rw [still] at moves
    exact Nat.le_trans moves.attempts (attempts side)

/-! ## Going on -/

/-- A task with a line at hand can go on, or the receiver can. -/
theorem exists_deal (limits : Limits) (request : Request) (child : Child) {side : Side}
    {line : String} {rest : List String} (lines : (state.relay side).lines = line :: rest) :
    ∃ next, Step limits request child state next ∧ next.gone = state.gone := by
  cases listening : (state.relay side).sent.listening with
  | false => exact ⟨_, .pass lines listening, rfl⟩
  | true =>
    cases gone : state.gone with
    | true => exact ⟨_, .refused lines listening gone, gone⟩
    | false =>
      by_cases room : state.queue.length < limits.queue
      · exact ⟨_, .send lines listening gone room, gone⟩
      · -- The queue is full, so there is something in it for the receiver to take.
        cases queue : state.queue with
        | nil =>
          rw [queue] at room
          exact absurd limits.queue_pos room
        | cons event events => exact ⟨_, .receive gone queue, gone⟩

/-- A task with a line at hand or bytes in its pipe is not stuck. -/
theorem exists_task (limits : Limits) (request : Request) (child : Child) {side : Side}
    (busy : (state.relay side).lines ≠ [] ∨ (state.relay side).pipe ≠ []) :
    ∃ next, Step limits request child state next ∧ next.gone = state.gone := by
  cases lines : (state.relay side).lines with
  | cons line rest => exact exists_deal limits request child lines
  | nil =>
    have found : (state.relay side).pipe ≠ [] := by simpa [lines] using busy
    exact ⟨_, .read lines found (List.append_nil _).symm, rfl⟩

/-- A run that is not complete can go on, whether the receiver is there or not. -/
theorem exists_step (limits : Limits) (request : Request) (child : Child)
    (unfinished : state.isComplete = false) :
    ∃ next, Step limits request child state next ∧ next.gone = state.gone := by
  by_cases busy : ∃ side, (state.relay side).lines ≠ [] ∨ (state.relay side).pipe ≠ []
  · obtain ⟨side, busy⟩ := busy
    exact exists_task limits request child busy
  · -- With both pipes empty the child can write, and when it has nothing to write it ends. Only then
    -- do the tasks read the ends of the streams, since the child may keep them open until it ends.
    have idle : ∀ side, (state.relay side).lines = [] ∧ (state.relay side).pipe = [] := by
      simpa using busy
    cases writes : state.writes with
    | cons write rest =>
      have room : (state.relay write.1).pipe.length < limits.pipe := by
        rw [(idle write.1).2]
        exact limits.pipe_pos
      exact ⟨_, .write writes room, rfl⟩
    | nil =>
      cases running : state.status with
      | none => exact ⟨_, .exit writes running, rfl⟩
      | some status =>
        by_cases reading : ∃ side, (state.relay side).ended = false
        · obtain ⟨side, unended⟩ := reading
          have written : writesTo side state.writes = [] := by
            rw [writes]
            rfl
          exact ⟨_, .finish written (idle side).2 (idle side).1 unended, rfl⟩
        · have done : ∀ side, (state.relay side).isDone = true := by
            intro side
            have ended : (state.relay side).ended = true := by
              simpa using fun unended => reading ⟨side, unended⟩
            simp [Relay.isDone, ended, (idle side).1]
          cases told : state.outcome with
          | none => exact ⟨_, .report done running told, rfl⟩
          | some told => simp [isComplete, told] at unfinished

end Forwarding

/-! ## Coming to an end -/

namespace Forwarding

variable {limits : Limits} {request : Request} {child : Child} {state next : Forwarding}

/-- How many moves are left at most: a byte is written and read, and the line that it ends, if it
ends one, is sent and taken. -/
def weight (state : Forwarding) : Nat :=
  4 * state.writes.length + (state.relay .out).load + (state.relay .err).load + state.queue.length +
    (!state.gone).toNat + state.status.isNone.toNat + state.outcome.isNone.toNat

/-- The weight of a state is that of its streams and of the rest. -/
theorem weight_set (state : Forwarding) (side : Side) (relay : Relay) :
    (state.set side relay).weight + (state.relay side).load = state.weight + relay.load := by
  cases side <;> simp only [weight, set, if_true, reduceCtorEq, if_false] <;> omega

/-- A state is lighter when one of its streams is. -/
theorem weight_set_lt {side : Side} {relay : Relay}
    (lighter : relay.load < (state.relay side).load) :
    (state.set side relay).weight < state.weight := by
  have moved := weight_set state side relay
  omega

/-- Every step leaves fewer moves. -/
theorem weight_step (steps : Step limits request child state next) :
    next.weight < state.weight := by
  cases steps with
  | @write side b rest next =>
    have moved := weight_set { state with writes := rest } side
      { state.relay side with pipe := (state.relay side).pipe ++ [b] }
    have before : state.weight = ({ state with writes := rest } : Forwarding).weight + 4 := by
      simp only [weight, next, List.length_cons]
      omega
    rw [Relay.load_write] at moved
    dsimp only at moved ⊢
    omega
  | read idle found waits => exact weight_set_lt (Relay.load_read idle found waits)
  | finish _ _ idle unended => exact weight_set_lt (Relay.load_finish idle unended)
  | @send side line rest next =>
    have moved := weight_set { state with queue := state.queue ++ [side.wrap line] } side
      ((state.relay side).deal (.takes 1) (side.wrap line) rest)
    have before : state.weight + 1 =
        ({ state with queue := state.queue ++ [side.wrap line] } : Forwarding).weight := by
      simp only [weight, List.length_append, List.length_singleton]
      omega
    have dealt := Relay.load_deal next (.takes 1) (side.wrap line)
    dsimp only at moved
    omega
  | @refused side line _ next | @pass side line _ next =>
    have dealt := Relay.load_deal next (.takes 0) (side.wrap line)
    exact weight_set_lt (by omega)
  | receive _ next =>
    simp only [weight, next, List.length_cons]
    omega
  | leave here =>
    simp only [weight, here, Bool.not_true, Bool.not_false, Bool.toNat_true, Bool.toNat_false,
      List.length_nil]
    omega
  | exit _ running => simp [weight, running]
  | report _ _ silent => simp [weight, silent]

/-- No run goes on for ever. -/
theorem exists_not_step (limits : Limits) (request : Request) (child : Child)
    (run : Nat → Forwarding) : ∃ n, ¬ Step limits request child (run n) (run (n + 1)) := by
  obtain ⟨n, heavy⟩ := WellFounded.not_rel_apply_succ (r := (· < ·)) fun n => (run n).weight
  exact ⟨n, fun steps => heavy (weight_step steps)⟩

/-- Runs can be put together. -/
theorem Reaches.trans {first second third : Forwarding}
    (before : Reaches limits request child first second)
    (after : Reaches limits request child second third) :
    Reaches limits request child first third := by
  induction after with
  | refl => exact before
  | step _ steps ih => exact ih.step steps

/-- Every run comes to an end, by induction on the moves that are left. -/
theorem exists_complete {first : Forwarding} (reaches : Reaches limits request child first state) :
    ∃ last, Reaches limits request child first last ∧ last.isComplete = true ∧
      last.gone = state.gone := by
  induction left : state.weight using Nat.strongRecOn generalizing state with
  | ind left ih =>
    subst left
    cases complete : state.isComplete with
    | true => exact ⟨state, reaches, complete, rfl⟩
    | false =>
      obtain ⟨next, steps, stays⟩ := exists_step limits request child complete
      obtain ⟨last, further, finished, same⟩ := ih _ (weight_step steps) (reaches.step steps) rfl
      exact ⟨last, further, finished, same.trans stays⟩

/-- A run that is complete has read all that the child wrote and reported its status. -/
theorem Sound.outcome_of_isComplete (sound : Sound request child state)
    (complete : state.isComplete = true) :
    state.outcome = some ⟨request.id, child.status⟩ ∧ state.writes = [] ∧ ∀ side,
      (state.relay side).pipe = [] ∧ ∃ receiver,
        (state.relay side).sent = forwardLines receiver side.wrap [child.stream side] := by
  obtain ⟨told, isTold⟩ := Option.isSome_iff_exists.mp complete
  obtain ⟨rfl, written, done⟩ := sound.reported isTold
  refine ⟨isTold, written, fun side => ?_⟩
  obtain ⟨drained, -, receiver, sent⟩ := (sound.relays side).sent_of_isDone (done side)
  refine ⟨drained, receiver, ?_⟩
  rw [forwardLines_eq, List.flatten_singleton]
  exact sent

/-- If the receiver has stayed, it has all lines of each stream, or they wait for it. -/
theorem Sound.arrived_of_isComplete (sound : Sound request child state)
    (complete : state.isComplete = true) (here : state.gone = false) (side : Side) :
    (state.taken ++ state.queue).filterMap side.line? = linesOf (child.stream side) := by
  obtain ⟨told, isTold⟩ := Option.isSome_iff_exists.mp complete
  obtain ⟨-, -, done⟩ := sound.reported isTold
  obtain ⟨-, -, receiver, sent⟩ := (sound.relays side).sent_of_isDone (done side)
  have listening : (state.relay side).sent.listening = true := by
    by_contra deaf
    have left := sound.deaf side (Bool.eq_false_of_not_eq_true deaf)
    exact Bool.false_ne_true (here.symm.trans left)
  rw [sent] at listening
  have arrived : state.arrived side = state.sentLines side := sound.arrived here side
  rw [sentLines, sent, send_of_listening listening, send_stays] at arrived
  exact arrived.trans (side.filterMap_line?_wrap _)

end Forwarding

/-! ## Going away -/

/-- A sender whose receiver goes reads on to the end and is refused once at most. -/
theorem forwardLines_takes (n : Nat) (wrap : String → Event) (chunks : List (List UInt8)) :
    (forwardLines (.takes n) wrap chunks).received =
        (forwardLines .stays wrap chunks).received.take n ∧
      (forwardLines (.takes n) wrap chunks).attempts ≤
        (forwardLines (.takes n) wrap chunks).received.length + 1 ∧
      (forwardLines (.takes n) wrap chunks).consumed = (linesOf chunks.flatten).length := by
  rw [forwardLines_eq, forwardLines_eq]
  refine ⟨?_, attempts_send_le _ _, ?_⟩
  · rw [send_takes, send_stays]
  · rw [consumed_send, List.length_map]

/-- The outcome of a child is that of its exit, however it was started. -/
theorem runProcess_outcome {spawn : Spawn} {files after : Files} {env : Environment}
    {executable : RawPath} {request : Request} {child : Child} {outcome : Outcome}
    (runs : runProcess spawn files env executable request = .ok (child, outcome, after)) :
    outcome = ⟨request.id, child.status⟩ := by
  unfold runProcess at runs
  cases line : commandLine request with
  | error failure => simp [line, bind, Except.bind] at runs
  | ok argv =>
    cases started : spawn files env executable argv with
    | error fault => simp [line, started, bind, Except.bind] at runs
    | ok left =>
      simp only [line, started, bind, Except.bind, pure, Except.pure, Except.ok.injEq,
        Prod.mk.injEq] at runs
      obtain ⟨rfl, rfl, -⟩ := runs
      rfl

open Forwarding (Reaches Step) in
/-- A receiver that goes away neither stops nor alters a run, whenever it goes. A sender reads its
stream to the end, is refused once at most, and what arrives is the first of what it would have
sent. A child writes all it has to say, its streams are read to their end, each task tries one more
send at most, what the receiver has taken comes first of the lines of each stream, and the outcome
is the one that is reported to a receiver that stays. A script comes to the same outcome, and its
request is recorded once. -/
theorem survives_departure (limits : Limits) (request : Request) (child : Child)
    (writes : List (Side × UInt8)) (made : ∀ side, writesTo side writes = child.stream side) :
    (∀ n wrap chunks,
      (forwardLines (.takes n) wrap chunks).received =
        (forwardLines .stays wrap chunks).received.take n ∧
      (forwardLines (.takes n) wrap chunks).attempts ≤
        (forwardLines (.takes n) wrap chunks).received.length + 1 ∧
      (forwardLines (.takes n) wrap chunks).consumed = (linesOf chunks.flatten).length) ∧
    (∀ state, Reaches limits request child { writes } state →
      (state.isComplete = false →
        ∃ next, Step limits request child state next ∧ next.gone = state.gone) ∧
      (∃ last, Reaches limits request child state last ∧ last.isComplete = true ∧
        last.gone = state.gone) ∧
      (∀ side, state.taken.filterMap side.line? <+: linesOf (child.stream side)) ∧
      (state.gone = true → ∀ later, Reaches limits request child state later →
        later.taken = state.taken ∧ ∀ side,
          (later.relay side).sent.attempts ≤ (state.relay side).sent.attempts + 1) ∧
      (state.isComplete = true →
        state.outcome = some ⟨request.id, child.status⟩ ∧ state.writes = [] ∧ ∀ side,
          (state.relay side).pipe = [] ∧ ∃ receiver,
            (state.relay side).sent = forwardLines receiver side.wrap [child.stream side]) ∧
      (state.isComplete = true → state.gone = false → ∀ side,
        (state.taken ++ state.queue).filterMap side.line? = linesOf (child.stream side))) ∧
    (∀ run : Nat → Forwarding, ∃ n, ¬ Step limits request child (run n) (run (n + 1))) ∧
    (∀ spawn files env executable outcome after,
      runProcess spawn files env executable request = .ok (child, outcome, after) →
        outcome = ⟨request.id, child.status⟩) ∧
    ∀ (engine : Scripted) (receiver : Receiver),
      (engine.run request receiver).1 = (engine.run request .stays).1 ∧
      (engine.run request receiver).1.requests = engine.requests ++ [request] ∧
      (engine.run request receiver).2.1 <+: (engine.run request .stays).2.1 ∧
      (engine.run request receiver).2.2 = ⟨request.id, engine.status⟩ := by
  have sound := fun state (reaches : Reaches limits request child { writes } state) =>
    (Forwarding.sound_start request made).reaches reaches
  refine ⟨forwardLines_takes, fun state reaches => ⟨Forwarding.exists_step limits request child,
    Forwarding.exists_complete (.refl state), ?_, ?_, (sound state reaches).outcome_of_isComplete,
    (sound state reaches).arrived_of_isComplete⟩,
    Forwarding.exists_not_step limits request child, ?_, ?_⟩
  · intro side
    exact ((sound state reaches).taken side).trans
      ((sound state reaches).relays side).received_isPrefix
  · intro left later further
    obtain ⟨-, taken, attempts⟩ := Forwarding.attempts_of_reaches further left
    refine ⟨taken, fun side => ?_⟩
    have most := attempts side
    have once := Bool.toNat_le (state.relay side).sent.listening
    omega
  · intro spawn files env executable outcome after runs
    exact runProcess_outcome runs
  · intro engine receiver
    refine ⟨rfl, rfl, ?_, rfl⟩
    simp only [Scripted.run, Scripted.deliver_stays]
    exact Scripted.deliver_isPrefix receiver engine.script

/-- A queue of one event and pipes of two bytes. -/
def narrow : Limits where
  queue := 1
  pipe := 2

/-- A child that says two lines, the second one without an end. -/
def mutterer : Child :=
  ⟨[0x61, lineFeed, 0x62], [0x65], some 3⟩

/-- What it writes: its complaint comes between the lines. -/
def muttered : List (Side × UInt8) :=
  [(.out, 0x61), (.out, lineFeed), (.err, 0x65), (.out, 0x62)]

/-- What it was started for. -/
def muttering : Request where
  id := 7
  args := []
  input := "a.ps"
  output := .file "a.pdf"

/-- The receiver takes the first line and goes. -/
theorem survives_departure_mutterer :
    ∃ last, Forwarding.Reaches narrow muttering mutterer { writes := muttered } last ∧
      last.isComplete = true ∧ last.taken = [.stdout "a"] ∧ last.outcome = some ⟨7, -3⟩ := by
  have made : ∀ side, writesTo side muttered = mutterer.stream side := by
    intro side
    cases side <;> rfl
  obtain ⟨-, runs, -⟩ := survives_departure narrow muttering mutterer muttered made
  have begun : Forwarding.Reaches narrow muttering mutterer { writes := muttered } _ := .refl _
  have written := (begun.step (.write rfl (by decide))).step (.write rfl (by decide))
  have read := written.step
    (@Forwarding.Step.read _ _ _ _ .out [0x61, lineFeed] [] rfl (by simp) rfl)
  have sent := read.step (@Forwarding.Step.send _ _ _ _ .out "a" [] rfl rfl rfl (by decide))
  have left := (sent.step (.receive rfl rfl)).step (.leave rfl)
  obtain ⟨-, ⟨last, further, complete, -⟩, -, stays, -⟩ := runs _ left
  have taken := (stays rfl last further).1
  have reaches := left.trans further
  obtain ⟨-, -, -, -, outcome, -⟩ := runs last reaches
  exact ⟨last, reaches, complete, taken, (outcome complete).1⟩

end EngineTokens.Engine
