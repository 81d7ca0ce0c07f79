import EngineTokens.Proofs.Engine.Delivery
import EngineTokens.Proofs.Engine.Lines

/-!
# A pipe and the task that reads it

What a step does to one stream is one of `Relay.Moves`. The lines that were dealt with, those at
hand and those to come stay the lines of the stream (`Sound.moves`), whether the receiver is there
or not, so a task that has returned has dealt with all of them (`Sound.sent_of_isDone`).
-/

set_option autoImplicit false

namespace EngineTokens.Engine

/-! ## The events of a stream -/

/-- What is written to a stream is its own bytes among all. -/
theorem writesTo_cons (side other : Side) (b : UInt8) (rest : List (Side × UInt8)) :
    writesTo side ((other, b) :: rest) =
      if other = side then b :: writesTo side rest else writesTo side rest := by
  by_cases same : other = side <;> simp [writesTo, same]

namespace Side

/-- The line of an event of one stream. -/
def line? : Side → Event → Option String
  | out => Event.out?
  | err => Event.err?

/-- An event has a line of the stream that it comes from, and of no other. -/
theorem line?_wrap (side other : Side) (line : String) :
    side.line? (other.wrap line) = if other = side then some line else none := by
  cases side <;> cases other <;> rfl

/-- The lines of a stream are got back from its events. -/
theorem filterMap_line?_wrap (side : Side) (lines : List String) :
    (lines.map side.wrap).filterMap side.line? = lines := by
  induction lines with
  | nil => rfl
  | cons line lines ih =>
    have own : side.line? (side.wrap line) = some line := by rw [line?_wrap, if_pos rfl]
    rw [List.map_cons, List.filterMap_cons_some own, ih]

end Side

namespace Relay

variable {side : Side} {gone : Bool} {stream unwritten left : List UInt8} {relay next : Relay}

/-- What a step does to one stream: to what is not written of it, and to its pipe and its task. -/
inductive Moves (side : Side) (gone : Bool) : List UInt8 → Relay → List UInt8 → Relay → Prop
  | rest (unwritten : List UInt8) (relay : Relay) : Moves side gone unwritten relay unwritten relay
  | write (b : UInt8) (unwritten : List UInt8) (relay : Relay) :
      Moves side gone (b :: unwritten) relay unwritten { relay with pipe := relay.pipe ++ [b] }
  | read {unwritten chunk rest : List UInt8} {relay : Relay} (idle : relay.lines = [])
      (found : chunk ≠ []) (waits : relay.pipe = chunk ++ rest) :
      Moves side gone unwritten relay unwritten (relay.read chunk rest)
  | finish {relay : Relay} (drained : relay.pipe = []) (idle : relay.lines = [])
      (unended : relay.ended = false) : Moves side gone [] relay [] relay.finish
  | send {unwritten : List UInt8} {relay : Relay} {line : String} {rest : List String}
      (next : relay.lines = line :: rest) (listening : relay.sent.listening = true)
      (here : gone = false) :
      Moves side gone unwritten relay unwritten (relay.deal (.takes 1) (side.wrap line) rest)
  | refused {unwritten : List UInt8} {relay : Relay} {line : String} {rest : List String}
      (next : relay.lines = line :: rest) (listening : relay.sent.listening = true)
      (left : gone = true) :
      Moves side gone unwritten relay unwritten (relay.deal (.takes 0) (side.wrap line) rest)
  | pass {unwritten : List UInt8} {relay : Relay} {line : String} {rest : List String}
      (next : relay.lines = line :: rest) (deaf : relay.sent.listening = false) :
      Moves side gone unwritten relay unwritten (relay.deal (.takes 0) (side.wrap line) rest)

/-- What holds of a stream all along a run. -/
structure Sound (side : Side) (stream unwritten : List UInt8) (relay : Relay) : Prop where
  clean : lineFeed ∉ relay.buffer.held
  /-- Nothing comes after the end. -/
  drained : relay.ended = true → unwritten = [] ∧ relay.pipe = [] ∧ relay.buffer.held = []
  /-- The lines that were dealt with, those at hand and those to come are those of the stream. -/
  account : ∃ dealt receiver, relay.sent = send receiver (dealt.map side.wrap) ∧
    dealt ++ relay.lines ++ linesOf (relay.buffer.held ++ (relay.pipe ++ unwritten)) =
      linesOf stream

/-- At the start the whole stream is still to come. -/
theorem sound_start (side : Side) (stream : List UInt8) : Sound side stream stream {} where
  clean := List.not_mem_nil
  drained := fun ended => by cases ended
  account := ⟨[], .stays, rfl, rfl⟩

/-- Dealing with a line moves it from those at hand to those that were dealt with. -/
theorem Sound.deal (sound : Sound side stream unwritten relay) {line : String} {rest : List String}
    (next : relay.lines = line :: rest) {dealer : Receiver}
    (sends : ∀ receiver events, relay.sent = send receiver events →
      ∃ other, forward dealer relay.sent [side.wrap line] =
        send other (events ++ [side.wrap line])) :
    Sound side stream unwritten (relay.deal dealer (side.wrap line) rest) := by
  obtain ⟨dealt, receiver, sent, account⟩ := sound.account
  obtain ⟨other, dealing⟩ := sends receiver (dealt.map side.wrap) sent
  refine ⟨sound.clean, sound.drained, dealt ++ [line], other, ?_, ?_⟩
  · rw [List.map_append, List.map_singleton]
    exact dealing
  · rw [← account, next]
    simp [Relay.deal]

/-- Whatever a step does to a stream, its lines stay accounted for. -/
theorem Sound.moves (sound : Sound side stream unwritten relay)
    (moves : Moves side gone unwritten relay left next) : Sound side stream left next := by
  obtain ⟨dealt, receiver, sent, account⟩ := sound.account
  cases moves with
  | rest => exact sound
  | write b =>
    refine ⟨sound.clean, ?_, dealt, receiver, sent, ?_⟩
    · -- A task that has read the end leaves nothing to write.
      intro ended
      cases (sound.drained ended).1
    · rw [← account]
      simp
  | @read _ chunk rest _ idle found waits =>
    obtain ⟨clean, same⟩ := Buffer.linesOf_feed sound.clean chunk (rest ++ unwritten)
    refine ⟨clean, ?_, dealt, receiver, sent, ?_⟩
    · intro ended
      have empty := (sound.drained ended).2.1
      rw [waits] at empty
      exact absurd (List.append_eq_nil_iff.mp empty).1 found
    · rw [← account, idle, waits, List.append_assoc chunk, same]
      simp [Relay.read]
  | finish drained idle =>
    refine ⟨List.not_mem_nil, fun _ => ⟨rfl, drained, rfl⟩, dealt, receiver, sent, ?_⟩
    -- Nothing comes after the line in hand, so it is the last line if it is one.
    rw [← account, idle, drained]
    simp [Relay.finish, drained, Buffer.finish_eq sound.clean, linesOf, cutLines, cutLinesFrom]
  | send next listening =>
    refine sound.deal next fun receiver events sent => ?_
    rw [sent] at listening ⊢
    exact ⟨.stays, send_concat listening _⟩
  | refused next listening =>
    refine sound.deal next fun receiver events sent => ?_
    rw [sent] at listening ⊢
    exact ⟨.takes events.length, send_concat_refused listening _⟩
  | pass next deaf =>
    refine sound.deal next fun receiver events sent => ?_
    rw [sent] at deaf ⊢
    exact ⟨receiver, send_concat_deaf deaf _⟩

/-- A task that has returned has dealt with all lines of its stream. -/
theorem Sound.sent_of_isDone (sound : Sound side stream unwritten relay)
    (done : relay.isDone = true) :
    relay.pipe = [] ∧ unwritten = [] ∧
      ∃ receiver, relay.sent = send receiver ((linesOf stream).map side.wrap) := by
  obtain ⟨ended, empty⟩ := Bool.and_eq_true_iff.mp done
  obtain ⟨written, drained, closed⟩ := sound.drained ended
  obtain ⟨dealt, receiver, sent, account⟩ := sound.account
  have all : dealt = linesOf stream := by
    rw [← account, List.isEmpty_iff.mp empty, written, drained, closed]
    simp [linesOf, cutLines, cutLinesFrom]
  exact ⟨drained, written, receiver, all ▸ sent⟩

/-- What was received of a stream comes first of its lines. -/
theorem Sound.received_isPrefix (sound : Sound side stream unwritten relay) :
    relay.sent.received.filterMap side.line? <+: linesOf stream := by
  obtain ⟨dealt, receiver, sent, account⟩ := sound.account
  have first : relay.sent.received <+: dealt.map side.wrap := by
    rw [sent]
    exact received_send_isPrefix receiver _
  have lines := first.filterMap side.line?
  rw [side.filterMap_line?_wrap] at lines
  rw [List.append_assoc] at account
  exact lines.trans ⟨_, account⟩

/-- A task that has returned does nothing more. -/
theorem Sound.eq_of_isDone (sound : Sound side stream unwritten relay)
    (done : relay.isDone = true) (moves : Moves side gone unwritten relay left next) :
    next = relay := by
  obtain ⟨drained, written, -⟩ := sound.sent_of_isDone done
  obtain ⟨ended, empty⟩ := Bool.and_eq_true_iff.mp done
  have idle := List.isEmpty_iff.mp empty
  cases moves with
  | rest => rfl
  | write => cases written
  | read _ found waits =>
    rw [drained] at waits
    exact absurd (List.append_eq_nil_iff.mp waits.symm).1 found
  | finish _ _ unended =>
    rw [ended] at unended
    cases unended
  | send next | refused next | pass next =>
    rw [idle] at next
    cases next

/-- A line that is not taken adds nothing to what was received. -/
theorem received_deal_takes_zero (relay : Relay) (event : Event) (rest : List String) :
    (relay.deal (.takes 0) event rest).sent.received = relay.sent.received := by
  cases listening : relay.sent.listening with
  | true => simp [Relay.deal, forward_takes listening]
  | false => simp [Relay.deal, forward_deaf listening]

/-- A line that is taken comes after what was received. -/
theorem received_deal_takes_one {relay : Relay} (listening : relay.sent.listening = true)
    (event : Event) (rest : List String) :
    (relay.deal (.takes 1) event rest).sent.received = relay.sent.received ++ [event] := by
  simp [Relay.deal, forward_takes listening]

/-- What was received stays. -/
theorem Moves.received (moves : Moves side gone unwritten relay left next) :
    relay.sent.received <+: next.sent.received := by
  cases moves with
  | send next listening =>
    rw [received_deal_takes_one listening]
    exact List.prefix_append _ _
  | refused | pass =>
    exact ⟨[], (List.append_nil _).trans (received_deal_takes_zero _ _ _).symm⟩
  | _ => exact List.prefix_refl _

/-- A task gives up when the receiver has gone, not before. -/
theorem Moves.deaf (moves : Moves side gone unwritten relay left next)
    (deaf : next.sent.listening = false) : relay.sent.listening = false ∨ gone = true := by
  cases moves with
  | send next listening =>
    simp [Relay.deal, forward_takes listening] at deaf
  | refused _ _ left => exact .inr left
  | pass _ already => exact .inl already
  | _ => exact .inl deaf

/-- When the receiver has gone, a send is tried only by a task that has not been refused yet, and
that is one no longer. -/
theorem Moves.attempts (moves : Moves side true unwritten relay left next) :
    next.sent.attempts + next.sent.listening.toNat ≤
      relay.sent.attempts + relay.sent.listening.toNat := by
  cases moves with
  | send _ _ here => cases here
  | refused _ listening => simp [Relay.deal, forward_takes listening, listening]
  | pass _ deaf => simp [Relay.deal, forward_deaf deaf]
  | _ => exact Nat.le_refl _

end Relay

/-! ## Moves that are left -/

/-- No more lines are ended than there are bytes. -/
theorem Buffer.length_take_le (buffer : Buffer) (lines : List String) (bytes : List UInt8) :
    (buffer.take lines bytes).2.length ≤ lines.length + bytes.length := by
  induction bytes generalizing buffer lines with
  | nil => exact Nat.le_refl _
  | cons b bytes ih =>
    rw [take]
    split
    · have rest := ih {} (lines ++ [decodeLine (buffer.held ++ [b])])
      simp only [List.length_append, List.length_cons, List.length_nil] at rest ⊢
      omega
    · have rest := ih ⟨buffer.held ++ [b]⟩ lines
      rw [List.length_cons]
      omega

/-- A chunk ends no more lines than it has bytes. -/
theorem Buffer.length_feed_le (buffer : Buffer) (chunk : List UInt8) :
    (buffer.feed chunk).2.length ≤ chunk.length := by
  have most := buffer.length_take_le [] chunk
  rwa [List.length_nil, Nat.zero_add] at most

/-- The end of a stream ends one line at most. -/
theorem Buffer.length_finish_le (buffer : Buffer) : buffer.finish.length ≤ 1 := by
  rw [finish]
  split
  · exact Nat.zero_le 1
  · exact Nat.le_refl 1

namespace Relay

variable {relay : Relay}

/-- How many moves a task and the receiver have left at most for what was written: the end of the
stream may complete a line. -/
def load (relay : Relay) : Nat :=
  3 * relay.pipe.length + 2 * relay.lines.length + 3 * (!relay.ended).toNat

/-- A byte that is written is three moves: one to read it, and two for the line that it may end. -/
theorem load_write (relay : Relay) (b : UInt8) :
    ({ relay with pipe := relay.pipe ++ [b] } : Relay).load = relay.load + 3 := by
  simp only [load, List.length_append, List.length_singleton]
  omega

/-- Reading makes fewer moves, since a byte ends one line at most. -/
theorem load_read {chunk rest : List UInt8} (idle : relay.lines = []) (found : chunk ≠ [])
    (waits : relay.pipe = chunk ++ rest) : (relay.read chunk rest).load < relay.load := by
  have most := relay.buffer.length_feed_le chunk
  have some := List.length_pos_iff.mpr found
  simp only [load, read, idle, waits, List.length_append, List.length_nil]
  omega

/-- So does reading the end of the stream. -/
theorem load_finish (idle : relay.lines = []) (unended : relay.ended = false) :
    relay.finish.load < relay.load := by
  have most := relay.buffer.length_finish_le
  simp only [load, finish, idle, unended, List.length_nil, Bool.not_true, Bool.not_false,
    Bool.toNat_true, Bool.toNat_false]
  omega

/-- A line that is dealt with is two moves less. -/
theorem load_deal {line : String} {rest : List String} (lines : relay.lines = line :: rest)
    (receiver : Receiver) (event : Event) :
    (relay.deal receiver event rest).load + 2 = relay.load := by
  simp only [load, deal, lines, List.length_cons]
  omega

end Relay

end EngineTokens.Engine
