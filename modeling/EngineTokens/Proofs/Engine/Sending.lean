import EngineTokens.Engine.Scripted

/-!
# What a sender sends

A receiver that takes `n` events gets the first `n`, and the sender is refused once if there are
more (`send_takes`). From what became of some events follows what becomes of one more
(`send_concat` and those after it), which is how a task deals with its lines one by one.
-/

set_option autoImplicit false

namespace EngineTokens.Engine

/-! ## A sender -/

/-- A receiver that stays takes everything. -/
theorem forward_stays {sent : Sent} (listening : sent.listening = true) (events : List Event) :
    forward .stays sent events =
      { received := sent.received ++ events
        attempts := sent.attempts + events.length
        consumed := sent.consumed + events.length
        listening := true } := by
  induction events generalizing sent with
  | nil => simp [forward, ← listening]
  | cons event events ih =>
    have first : forward .stays sent (event :: events) =
        forward .stays
          ⟨sent.received ++ [event], sent.attempts + 1, sent.consumed + 1, true⟩ events := by
      rw [forward, if_pos listening]
      simp only [Receiver.accept, listening]
    have count : ∀ n, n + 1 + events.length = n + (event :: events).length := by
      intro n
      rw [List.length_cons]
      omega
    have rest := @ih ⟨sent.received ++ [event], sent.attempts + 1, sent.consumed + 1, true⟩ rfl
    rw [first, rest]
    simp only [count, List.append_assoc, List.singleton_append]

/-- To a receiver that stays, everything is sent. -/
theorem send_stays (events : List Event) :
    send .stays events = ⟨events, events.length, events.length, true⟩ := by
  rw [send, forward_stays rfl]
  simp

/-- Nothing is sent to a receiver that has refused. -/
theorem forward_deaf {sent : Sent} (deaf : sent.listening = false) (receiver : Receiver)
    (events : List Event) :
    forward receiver sent events = { sent with consumed := sent.consumed + events.length } := by
  induction events generalizing sent with
  | nil => rfl
  | cons event events ih =>
    have refused : ¬ sent.listening = true := by simp [deaf]
    rw [forward, if_neg refused, @ih { sent with consumed := sent.consumed + 1 } deaf]
    simp only [List.length_cons, Nat.add_assoc, Nat.add_comm 1]

/-- A receiver that goes away takes the first events and refuses the next, if there is one. -/
theorem forward_takes {sent : Sent} (listening : sent.listening = true) (n : Nat)
    (events : List Event) :
    forward (.takes n) sent events =
      { received := sent.received ++ events.take n
        attempts := sent.attempts + min (n + 1) events.length
        consumed := sent.consumed + events.length
        listening := decide (events.length ≤ n) } := by
  induction events generalizing sent n with
  | nil => simp [forward, ← listening]
  | cons event events ih =>
    cases n with
    | zero =>
      have first : forward (.takes 0) sent (event :: events) =
          forward (.takes 0)
            ⟨sent.received, sent.attempts + 1, sent.consumed + 1, false⟩ events := by
        rw [forward, if_pos listening]
        rfl
      rw [first, forward_deaf rfl]
      simp [Nat.add_assoc, Nat.add_comm 1]
    | succ n =>
      have first : forward (.takes (n + 1)) sent (event :: events) =
          forward (.takes n)
            ⟨sent.received ++ [event], sent.attempts + 1, sent.consumed + 1, true⟩ events := by
        rw [forward, if_pos listening]
        simp only [Receiver.accept, listening]
      have rest := @ih ⟨sent.received ++ [event], sent.attempts + 1, sent.consumed + 1, true⟩ rfl n
      have count : sent.attempts + 1 + min (n + 1) events.length =
          sent.attempts + min (n + 1 + 1) (events.length + 1) := by omega
      rw [first, rest]
      simp [count, Nat.add_assoc, Nat.add_comm 1]

/-- Of the events that are sent, the first are received, and one more is tried. -/
theorem send_takes (n : Nat) (events : List Event) :
    send (.takes n) events =
      ⟨events.take n, min (n + 1) events.length, events.length, decide (events.length ≤ n)⟩ := by
  rw [send, forward_takes rfl]
  simp

/-- What is received comes first of what is sent. -/
theorem received_send_isPrefix (receiver : Receiver) (events : List Event) :
    (send receiver events).received <+: events := by
  cases receiver with
  | stays =>
    exact ⟨[], (List.append_nil _).trans (congrArg Sent.received (send_stays events))⟩
  | takes n =>
    rw [send_takes]
    exact List.take_prefix n events

/-- All events are consumed, whether they are received or not. -/
theorem consumed_send (receiver : Receiver) (events : List Event) :
    (send receiver events).consumed = events.length := by
  cases receiver with
  | stays => rw [send_stays]
  | takes n => rw [send_takes]

/-- One send at most is refused. -/
theorem attempts_send_le (receiver : Receiver) (events : List Event) :
    (send receiver events).attempts ≤ (send receiver events).received.length + 1 := by
  cases receiver with
  | stays =>
    rw [send_stays]
    exact Nat.le_succ _
  | takes n =>
    rw [send_takes]
    simp only [List.length_take]
    omega

/-- A receiver that has refused nothing might as well have stayed. -/
theorem send_of_listening {receiver : Receiver} {events : List Event}
    (listening : (send receiver events).listening = true) :
    send receiver events = send .stays events := by
  cases receiver with
  | stays => rfl
  | takes n =>
    rw [send_takes] at listening ⊢
    have all : events.length ≤ n := by simpa using listening
    have tried : min (n + 1) events.length = events.length := by omega
    rw [send_stays, List.take_of_length_le all, decide_eq_true all, tried]

/-- One more event is sent as if the receiver took it after the others. -/
theorem send_concat {receiver : Receiver} {events : List Event}
    (listening : (send receiver events).listening = true) (event : Event) :
    forward (.takes 1) (send receiver events) [event] = send .stays (events ++ [event]) := by
  rw [send_of_listening listening, send_stays, send_stays, forward_takes rfl]
  simp

/-- One more event is refused as if the receiver took just the others. -/
theorem send_concat_refused {receiver : Receiver} {events : List Event}
    (listening : (send receiver events).listening = true) (event : Event) :
    forward (.takes 0) (send receiver events) [event] =
      send (.takes events.length) (events ++ [event]) := by
  rw [send_of_listening listening, send_stays, send_takes, forward_takes rfl]
  simp

/-- One more event makes no difference to a sender that was refused. -/
theorem send_concat_deaf {receiver : Receiver} {events : List Event}
    (deaf : (send receiver events).listening = false) (event : Event) :
    forward (.takes 0) (send receiver events) [event] = send receiver (events ++ [event]) := by
  cases receiver with
  | stays => simp [send_stays] at deaf
  | takes n =>
    rw [forward_deaf deaf, send_takes, send_takes]
    rw [send_takes] at deaf
    have few : n < events.length := by simpa using deaf
    have tried : min (n + 1) events.length = min (n + 1) (events.length + 1) := by omega
    have still : decide (events.length ≤ n) = decide (events.length + 1 ≤ n) := by
      rw [decide_eq_decide]
      omega
    have same : events.take n = (events ++ [event]).take n :=
      (List.take_append_of_le_length (Nat.le_of_lt few)).symm
    simp only [List.length_append, List.length_singleton, ← tried, ← still, ← same]

/-! ## A script -/

namespace Scripted

/-- To a receiver that stays, a script is delivered in full. -/
theorem deliver_stays (events : List Event) : deliver .stays events = events := by
  induction events with
  | nil => rfl
  | cons event events ih => simp only [deliver, Receiver.accept, ih]

/-- To a receiver that goes away, its beginning is delivered. -/
theorem deliver_takes (n : Nat) (events : List Event) :
    deliver (.takes n) events = events.take n := by
  induction events generalizing n with
  | nil => simp [deliver]
  | cons event events ih =>
    cases n with
    | zero => rfl
    | succ n => simp only [deliver, Receiver.accept, ih, List.take_succ_cons]

/-- What is delivered comes first of the script. -/
theorem deliver_isPrefix (receiver : Receiver) (events : List Event) :
    deliver receiver events <+: events := by
  cases receiver with
  | stays => exact ⟨[], (List.append_nil _).trans (deliver_stays events)⟩
  | takes n =>
    rw [deliver_takes]
    exact List.take_prefix n events

end Scripted

end EngineTokens.Engine
