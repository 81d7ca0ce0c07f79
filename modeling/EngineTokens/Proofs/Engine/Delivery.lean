import EngineTokens.Engine.Execution
import EngineTokens.Session.Run
import Mathlib.Order.WellFounded

/-!
# Everything an engine says arrives

Whatever order the senders and the printer move in, what the printer has shown of one kind, what
waits in the queue and what is still to be sent make up the same list (`account_step`), as long as
that kind comes from one sender: a script has one, and of a process each of the two streams has its
own. Nothing is sent to a printer that has gone, since the printer stays as long as a sender holds
the queue (`Consistent`). A run that is not complete can always go on (`exists_step`), and it cannot
go on for ever (`weight_step`), so every run comes to its end with everything shown.
-/

set_option autoImplicit false

namespace EngineTokens.Engine

/-! ## Kinds of events -/

namespace Event

/-- The line of an event of the output. -/
def out? : Event → Option String
  | .stdout line => some line
  | .stderr _ => none
  | .page _ => none

/-- The line of an event of the error output. -/
def err? : Event → Option String
  | .stdout _ => none
  | .stderr line => some line
  | .page _ => none

/-- The image of a page that can be converted. -/
def image? : Event → Option Display.Image
  | .stdout _ => none
  | .stderr _ => none
  | .page raw => raw.decode.toOption

end Event

/-- A kind of things that are shown: what events carry of it, and what has been shown of it. -/
structure View (α : Type) where
  carried : Event → Option α
  shown : Shown → List α
  start : shown {} = []
  /-- What an event carries comes after all that was shown before it. -/
  take : ∀ (before : Shown) (event : Event),
    shown (before.take event) = shown before ++ (carried event).toList

namespace View

/-- The lines of the output. -/
def out : View String where
  carried := Event.out?
  shown := fun shown => shown.printed.out
  start := rfl
  take := by
    rintro before (line | line | page)
    · rfl
    · exact (List.append_nil _).symm
    · exact (List.append_nil _).symm

/-- The lines of the error output. -/
def err : View String where
  carried := Event.err?
  shown := fun shown => shown.printed.err
  start := rfl
  take := by
    rintro before (line | line | page)
    · exact (List.append_nil _).symm
    · rfl
    · exact (List.append_nil _).symm

/-- The images of the pages that can be converted. -/
def images : View Display.Image where
  carried := Event.image?
  shown := Shown.pages
  start := rfl
  take := by
    rintro before (line | line | page)
    · exact (List.append_nil _).symm
    · exact (List.append_nil _).symm
    · cases decoded : page.decode <;>
        simp [Shown.take, Display.store, Event.image?, decoded, Except.toOption]

variable {α : Type} (view : View α)

/-- Events that are taken are shown one after another. -/
theorem takeAll (before : Shown) (events : List Event) :
    view.shown (before.takeAll events) = view.shown before ++ events.filterMap view.carried := by
  induction events generalizing before with
  | nil => exact (List.append_nil _).symm
  | cons event events ih =>
    have first : before.takeAll (event :: events) = (before.take event).takeAll events := rfl
    rw [first, ih, view.take, List.append_assoc, List.filterMap_cons]
    cases view.carried event <;> rfl

/-- No two senders send events of the kind. -/
def Apart (senders : List (List Event)) : Prop :=
  senders.Pairwise fun a b => a.filterMap view.carried = [] ∨ b.filterMap view.carried = []

/-- What has been shown of the kind, waits in the queue and is still to be sent. -/
def account (channel : Channel) : List α :=
  view.shown channel.shown ++ channel.queue.filterMap view.carried ++
    channel.senders.flatten.filterMap view.carried

/-- A move of the channel keeps the account: an event that is sent stands before all that is still
to be sent of its kind, and one that is taken before all that waits. -/
theorem account_step {view : View α} {first second : Channel} (moves : Channel.Step first second)
    (apart : view.Apart first.senders) :
    view.Apart second.senders ∧ view.account second = view.account first := by
  cases moves with
  | send before after event rest queue shown room =>
    obtain ⟨earlier, others, across⟩ := List.pairwise_append.mp apart
    obtain ⟨behind, later⟩ := List.pairwise_cons.mp others
    have fewer : (event :: rest).filterMap view.carried = [] →
        rest.filterMap view.carried = [] := by
      rw [List.filterMap_cons]
      cases view.carried event <;> simp
    constructor
    · refine List.pairwise_append.mpr ⟨earlier, List.pairwise_cons.mpr ⟨?_, later⟩, ?_⟩
      · exact fun other mem => (behind other mem).imp_left fewer
      · intro one mem other among
        rcases List.mem_cons.mp among with rfl | among
        · exact (across one mem _ List.mem_cons_self).imp_right fewer
        · exact across one mem other (List.mem_cons_of_mem _ among)
    · cases carried : view.carried event with
      | none => simp [account, carried]
      | some thing =>
        -- the senders before this one have nothing of the kind, so its event is the next
        have silent : before.flatten.filterMap view.carried = [] := by
          rw [List.filterMap_flatten, List.flatten_eq_nil_iff]
          intro sent mem
          obtain ⟨one, member, rfl⟩ := List.mem_map.mp mem
          refine (across one member _ List.mem_cons_self).resolve_right ?_
          simp [carried]
        simp [account, carried, silent]
  | receive senders event queue shown =>
    refine ⟨apart, ?_⟩
    simp only [account, view.take, List.filterMap_cons]
    cases view.carried event <;> simp

end View

/-! ## Moves of the channel -/

namespace Channel

variable {channel first second : Channel}

/-- A sender that has something to send after a move had something before it. -/
theorem sending_of_step (moves : Step first second) {sender : Nat} {event : Event}
    {rest : List Event} (sends : second.senders[sender]? = some (event :: rest)) :
    ∃ event rest, first.senders[sender]? = some (event :: rest) := by
  cases moves with
  | send before after sent kept queue shown room =>
    dsimp only at sends ⊢
    rw [List.getElem?_append] at sends ⊢
    split at sends
    next early => exact ⟨event, rest, by rw [if_pos early, sends]⟩
    next late =>
      rw [if_neg late]
      cases position : sender - before.length with
      | zero => exact ⟨sent, kept, rfl⟩
      | succ further =>
        rw [position] at sends
        exact ⟨event, rest, sends⟩
  | receive => exact ⟨event, rest, sends⟩

/-- No sender is lost or added. -/
theorem length_senders_of_step (moves : Step first second) :
    second.senders.length = first.senders.length := by
  cases moves <;> simp

/-- The exchange goes on as long as something waits or is still to be sent: if nothing waits, the
queue has room. -/
theorem exists_step (busy : channel.queue ≠ [] ∨ ∃ sent ∈ channel.senders, sent ≠ []) :
    ∃ next, Step channel next := by
  obtain ⟨senders, queue, shown⟩ := channel
  cases queue with
  | cons event queue => exact ⟨_, .receive senders event queue shown⟩
  | nil =>
    obtain ⟨sent, mem, some⟩ := busy.resolve_left fun waiting => waiting rfl
    obtain ⟨before, after, rfl⟩ := List.append_of_mem mem
    cases sent with
    | nil => exact absurd rfl some
    | cons event rest => exact ⟨_, .send before after event rest [] shown (by decide)⟩

/-- How many moves are left: an event that is still to be sent makes two, one that waits makes
one. -/
def load (channel : Channel) : Nat :=
  2 * channel.senders.flatten.length + channel.queue.length

/-- Every move leaves fewer of them. -/
theorem load_step (moves : Step first second) : second.load < first.load := by
  cases moves with
  | send before after event rest queue shown room =>
    simp [load]
    omega
  | receive => simp [load]

end Channel

/-! ## Runs -/

namespace Execution

variable {outcome : Outcome} {execution next : Execution}

/-- What holds all along a run. -/
structure Consistent (outcome : Outcome) (execution : Execution) : Prop where
  known : ∀ sender ∈ execution.holders, sender < execution.channel.senders.length
  /-- A sender that has something to send holds the queue. -/
  holding : ∀ {sender : Nat} {event : Event} {rest : List Event},
    execution.channel.senders[sender]? = some (event :: rest) → sender ∈ execution.holders
  /-- The printer goes when nothing can come any more. -/
  gone : execution.printing = false → execution.holders = [] ∧ execution.channel.queue = []
  /-- The engine reports its outcome when all has been sent. -/
  reported : ∀ {told : Outcome}, execution.outcome = some told →
    told = outcome ∧ execution.holders = []

/-- At the start every sender holds the queue and the printer is there. -/
theorem consistent_start (producer : Producer) (outcome : Outcome) :
    (start producer).Consistent outcome where
  known := fun _ mem => List.mem_range.mp mem
  holding := fun sends => by
    obtain ⟨inside, -⟩ := List.getElem?_eq_some_iff.mp sends
    exact List.mem_range.mpr inside
  gone := fun gone => by cases gone
  reported := fun told => by cases told

/-- No send is refused: a sender that has something to send keeps the printer waiting. -/
theorem Consistent.not_sending (consistent : execution.Consistent outcome)
    (left : execution.printing = false) {before after : List (List Event)} {event : Event}
    {rest : List Event} : execution.channel.senders ≠ before ++ (event :: rest) :: after := by
  intro sending
  have sends : execution.channel.senders[before.length]? = some (event :: rest) := by
    rw [sending, List.getElem?_append_right (Nat.le_refl _), Nat.sub_self]
    rfl
  have holds := consistent.holding sends
  rw [(consistent.gone left).1] at holds
  cases holds

/-- A step keeps a run consistent. -/
theorem Consistent.step (consistent : execution.Consistent outcome)
    (steps : Step outcome execution next) : next.Consistent outcome := by
  have refusal := @consistent.not_sending
  obtain ⟨known, holding, gone, reported⟩ := consistent
  cases steps with
  | exchange printing moves =>
    refine ⟨?_, ?_, ?_, reported⟩
    · intro sender mem
      rw [Channel.length_senders_of_step moves]
      exact known sender mem
    · intro sender event rest sends
      obtain ⟨_, _, sent⟩ := Channel.sending_of_step moves sends
      exact holding sent
    · intro left
      rw [printing] at left
      cases left
  | refused left sending => exact absurd sending (refusal left)
  | release holds done =>
    refine ⟨?_, ?_, ?_, ?_⟩
    · exact fun sender mem => known sender (List.mem_of_mem_erase mem)
    · intro sender event rest sends
      refine (List.mem_erase_of_ne ?_).mpr (holding sends)
      rintro rfl
      rw [done] at sends
      cases sends
    · intro left
      rw [(gone left).1] at holds
      cases holds
    · intro told isTold
      rw [(reported isTold).2] at holds
      cases holds
  | exit running => exact ⟨known, holding, gone, reported⟩
  | report free ended silent =>
    refine ⟨known, holding, gone, ?_⟩
    rintro told ⟨⟩
    exact ⟨rfl, free⟩
  | close printing free empty => exact ⟨known, holding, fun _ => ⟨free, empty⟩, reported⟩

/-- A run that is not complete can go on: with the exchange as long as there is something to show,
then with the senders that let go, and at last with the two ends. -/
theorem Consistent.exists_step (consistent : execution.Consistent outcome)
    (unfinished : execution.isComplete = false) : ∃ next, Step outcome execution next := by
  cases printing : execution.printing with
  | false =>
    obtain ⟨free, -⟩ := consistent.gone printing
    cases running : execution.running with
    | true => exact ⟨_, .exit running⟩
    | false =>
      cases told : execution.outcome with
      | none => exact ⟨_, .report free running told⟩
      | some told => simp [isComplete, printing, told] at unfinished
  | true =>
    by_cases busy : execution.channel.queue ≠ [] ∨ ∃ sent ∈ execution.channel.senders, sent ≠ []
    · obtain ⟨channel, moves⟩ := Channel.exists_step busy
      exact ⟨_, .exchange printing moves⟩
    · simp only [not_or, not_exists, not_and, Decidable.not_not] at busy
      obtain ⟨empty, silent⟩ := busy
      cases holders : execution.holders with
      | nil => exact ⟨_, .close printing holders empty⟩
      | cons sender others =>
        have holds : sender ∈ execution.holders := by rw [holders]; exact List.mem_cons_self
        have inside := consistent.known sender holds
        have done : execution.channel.senders[sender]? = some [] := by
          rw [List.getElem?_eq_getElem inside, silent _ (List.getElem_mem inside)]
        exact ⟨_, .release holds done⟩

/-- How many moves are left at most: those of the channel, and what happens once. -/
def weight (execution : Execution) : Nat :=
  execution.channel.load + execution.holders.length + execution.running.toNat +
    execution.printing.toNat + execution.outcome.isNone.toNat

/-- Every step leaves fewer moves. -/
theorem weight_step (steps : Step outcome execution next) : next.weight < execution.weight := by
  cases steps with
  | exchange printing moves =>
    have lighter := Channel.load_step moves
    simp only [weight]
    omega
  | refused gone sending =>
    simp only [weight, Channel.load, sending, List.flatten_append, List.flatten_cons, List.nil_append,
      List.cons_append, List.length_append, List.length_cons]
    omega
  | release holds done =>
    have fewer := List.length_erase_of_mem holds
    have some := List.length_pos_of_mem holds
    simp only [weight]
    omega
  | exit running => simp [weight, running]
  | report free ended silent => simp [weight, silent]
  | close printing free empty => simp [weight, printing]

/-- So every state of a run is consistent, by induction on its steps. -/
theorem Consistent.reaches {last : Execution} (consistent : execution.Consistent outcome)
    (reaches : Reaches outcome execution last) : last.Consistent outcome := by
  induction reaches with
  | refl => exact consistent
  | step _ steps ih => exact ih.step steps

/-- Runs can be put together. -/
theorem Reaches.trans {first second third : Execution} (before : Reaches outcome first second)
    (after : Reaches outcome second third) : Reaches outcome first third := by
  induction after with
  | refl => exact before
  | step _ steps ih => exact ih.step steps

/-- A run comes to its end, by induction on the moves that are left. -/
theorem Consistent.exists_complete (consistent : execution.Consistent outcome) :
    ∃ last, Reaches outcome execution last ∧ last.isComplete = true := by
  induction left : execution.weight using Nat.strongRecOn generalizing execution with
  | ind left ih =>
    subst left
    cases complete : execution.isComplete with
    | true => exact ⟨execution, .refl execution, complete⟩
    | false =>
      obtain ⟨next, steps⟩ := consistent.exists_step complete
      obtain ⟨last, reaches, finished⟩ := ih _ (weight_step steps) (consistent.step steps) rfl
      exact ⟨last, (Reaches.step (.refl execution) steps).trans reaches, finished⟩

/-- A run does not go on for ever. -/
theorem exists_not_step (run : Nat → Execution) :
    ∃ n, ¬ Step outcome (run n) (run (n + 1)) := by
  obtain ⟨n, heavy⟩ := WellFounded.not_rel_apply_succ (r := (· < ·)) fun n => (run n).weight
  exact ⟨n, fun steps => heavy (weight_step steps)⟩

/-! ## What is shown -/

variable {α : Type} {view : View α}

/-- A step neither loses nor adds anything of a kind. -/
theorem account_step (consistent : execution.Consistent outcome)
    (apart : view.Apart execution.channel.senders) (steps : Step outcome execution next) :
    view.Apart next.channel.senders ∧
      view.account next.channel = view.account execution.channel := by
  cases steps with
  | exchange printing moves => exact View.account_step moves apart
  | refused left sending => exact absurd sending (consistent.not_sending left)
  | release => exact ⟨apart, rfl⟩
  | exit => exact ⟨apart, rfl⟩
  | report => exact ⟨apart, rfl⟩
  | close => exact ⟨apart, rfl⟩

/-- So a whole run does not either, by induction on its steps. -/
theorem Consistent.account_reaches (consistent : execution.Consistent outcome)
    (apart : view.Apart execution.channel.senders) {last : Execution}
    (reaches : Reaches outcome execution last) :
    view.Apart last.channel.senders ∧
      view.account last.channel = view.account execution.channel := by
  induction reaches with
  | refl => exact ⟨apart, rfl⟩
  | step reaches steps ih =>
    obtain ⟨still, kept⟩ := account_step (consistent.reaches reaches) ih.1 steps
    exact ⟨still, kept.trans ih.2⟩

/-- When the printer has ended, everything of a kind that was to be sent has been shown. -/
theorem Consistent.account_of_gone (consistent : execution.Consistent outcome)
    (left : execution.printing = false) :
    view.account execution.channel = view.shown execution.channel.shown := by
  obtain ⟨free, empty⟩ := consistent.gone left
  have silent : execution.channel.senders.flatten = [] := by
    refine List.flatten_eq_nil_iff.mpr fun sent mem => ?_
    obtain ⟨before, after, senders⟩ := List.append_of_mem mem
    cases sent with
    | nil => rfl
    | cons event rest => exact absurd senders (consistent.not_sending left)
  simp [View.account, empty, silent]

/-- What has been shown stays, and what comes is shown after it. -/
theorem isPrefix_of_step (steps : Step outcome execution next) :
    view.shown execution.channel.shown <+: view.shown next.channel.shown := by
  cases steps with
  | exchange printing moves =>
    obtain ⟨⟨senders, queue, shown⟩, holders, running, printing, told⟩ := execution
    cases moves with
    | send => exact List.prefix_refl _
    | receive =>
      rw [view.take]
      exact List.prefix_append _ _
  | _ => exact List.prefix_refl _

/-- What has been shown at some point stays to the end. -/
theorem isPrefix_of_reaches {last : Execution} (reaches : Reaches outcome execution last) :
    view.shown execution.channel.shown <+: view.shown last.channel.shown := by
  induction reaches with
  | refl => exact List.prefix_refl _
  | step _ steps ih => exact ih.trans (isPrefix_of_step steps)

end Execution

/-! ## Engines -/

namespace Producer

/-- The lines of the output, in order. -/
def outLines : Producer → List String
  | scripted engine => engine.script.filterMap Event.out?
  | process child => linesOf child.out

/-- The lines of the error output, in order. -/
def errLines : Producer → List String
  | scripted engine => engine.script.filterMap Event.err?
  | process child => linesOf child.err

/-- The images of the pages that can be converted, in order. -/
def images : Producer → List Display.Image
  | scripted engine => engine.script.filterMap Event.image?
  | process _ => []

/-- The status of the engine in the end. -/
def status : Producer → Int
  | scripted engine => engine.status
  | process child => child.status

/-- The outcome of an engine has the number of the request and the status of the engine. -/
theorem outcome_eq (request : Request) (producer : Producer) :
    producer.outcome request = ⟨request.id, producer.status⟩ := by
  cases producer <;> rfl

/-- Each kind of events comes from one sender only. -/
theorem apart (producer : Producer) :
    View.out.Apart producer.senders ∧ View.err.Apart producer.senders ∧
      View.images.Apart producer.senders := by
  cases producer with
  | scripted engine =>
    exact ⟨List.pairwise_singleton _ _, List.pairwise_singleton _ _, List.pairwise_singleton _ _⟩
  | process child =>
    refine ⟨List.pairwise_pair.mpr (.inr ?_), List.pairwise_pair.mpr (.inl ?_),
      List.pairwise_pair.mpr (.inl ?_)⟩
    · simp [View.out, Child.errEvents, Event.out?]
    · simp [View.err, Child.outEvents, Event.err?]
    · simp [View.images, Child.outEvents, Event.image?]

/-- At the start everything of a kind is still to be sent. -/
theorem account_start {α : Type} (view : View α) (producer : Producer) :
    view.account (Channel.start producer.senders) =
      producer.senders.flatten.filterMap view.carried := by
  simp [View.account, Channel.start, view.start]

/-- What the senders send of each kind is what the engine has of it. -/
theorem carried_senders (producer : Producer) :
    producer.senders.flatten.filterMap View.out.carried = producer.outLines ∧
      producer.senders.flatten.filterMap View.err.carried = producer.errLines ∧
      producer.senders.flatten.filterMap View.images.carried = producer.images := by
  cases producer with
  | scripted engine =>
    simp [senders, outLines, errLines, images, View.out, View.err, View.images]
  | process child =>
    have out : Event.out? ∘ Event.stdout = some ∧ Event.out? ∘ Event.stderr = fun _ => none :=
      ⟨rfl, rfl⟩
    have err : Event.err? ∘ Event.stdout = (fun _ => none) ∧ Event.err? ∘ Event.stderr = some :=
      ⟨rfl, rfl⟩
    have image : Event.image? ∘ Event.stdout = (fun _ => none) ∧
        Event.image? ∘ Event.stderr = fun _ => none := ⟨rfl, rfl⟩
    have nothing {α : Type} (lines : List String) :
        lines.filterMap (fun _ => (none : Option α)) = [] :=
      List.filterMap_eq_nil_iff.mpr fun _ _ => rfl
    simp only [senders, outLines, errLines, images, View.out, View.err, View.images, Child.outEvents,
      Child.errEvents, List.flatten_cons, List.flatten_nil, List.append_nil, List.nil_append,
      List.filterMap_append, List.filterMap_map, List.filterMap_some, out, err, image, nothing,
      and_self]

/-- All that an engine says, as it is shown. -/
def shown (producer : Producer) : Shown where
  printed := { out := producer.outLines, err := producer.errLines }
  pages := producer.images

/-- It is what becomes of its events taken one sender after the other. -/
theorem shown_eq_takeAll (producer : Producer) :
    producer.shown = Shown.takeAll {} producer.senders.flatten := by
  obtain ⟨out, err, images⟩ := producer.carried_senders
  have shows : ∀ {α : Type} (view : View α),
      view.shown (Shown.takeAll {} producer.senders.flatten) =
        producer.senders.flatten.filterMap view.carried := by
    intro α view
    rw [view.takeAll, view.start, List.nil_append]
  have lines := (shows View.out).trans out
  have complaints := (shows View.err).trans err
  have pages := (shows View.images).trans images
  exact (congr (congrArg Shown.mk (congr (congrArg Printed.mk lines) complaints)) pages).symm

end Producer

namespace Execution

variable {producer : Producer} {outcome : Outcome} {execution : Execution}

/-- When the printer has ended, all that the engine says has been shown. -/
theorem shown_of_gone (reaches : Reaches outcome (start producer) execution)
    (left : execution.printing = false) : execution.channel.shown = producer.shown := by
  have consistent := (consistent_start producer outcome).reaches reaches
  have shows : ∀ {α : Type} (view : View α), view.Apart producer.senders →
      view.shown execution.channel.shown = producer.senders.flatten.filterMap view.carried := by
    intro α view apart
    have kept := ((consistent_start producer outcome).account_reaches apart reaches).2
    rw [consistent.account_of_gone left] at kept
    exact kept.trans (Producer.account_start view producer)
  obtain ⟨outApart, errApart, imagesApart⟩ := producer.apart
  obtain ⟨out, err, images⟩ := producer.carried_senders
  have lines := (shows View.out outApart).trans out
  have complaints := (shows View.err errApart).trans err
  have pages := (shows View.images imagesApart).trans images
  exact congr (congrArg Shown.mk (congr (congrArg Printed.mk lines) complaints)) pages

/-- A run that is complete has reported its outcome, and its printer has ended. -/
theorem outcome_of_isComplete (reaches : Reaches outcome (start producer) execution)
    (complete : execution.isComplete = true) :
    execution.outcome = some outcome ∧ execution.printing = false := by
  obtain ⟨reported, left⟩ := Bool.and_eq_true_iff.mp complete
  obtain ⟨told, isTold⟩ := Option.isSome_iff_exists.mp reported
  obtain ⟨rfl, -⟩ := ((consistent_start producer outcome).reaches reaches).reported isTold
  exact ⟨isTold, by simpa using left⟩

end Execution

/-- An engine and the printer beside it, in whatever order they move: a run is never stuck, does not
go on for ever and comes to its end, pages that are stored stay where they are, and in the end each
line has been printed on its own stream, in order, the images of all pages that can be converted are
stored in order, and the outcome is that of the request. -/
theorem Producer.delivers (producer : Producer) (request : Request) :
    (∀ execution, Execution.Reaches (producer.outcome request) (.start producer) execution →
      (execution.isComplete = false →
        ∃ next, Execution.Step (producer.outcome request) execution next) ∧
      (∃ last, Execution.Reaches (producer.outcome request) execution last ∧
        last.isComplete = true) ∧
      (∀ later, Execution.Reaches (producer.outcome request) execution later →
        execution.channel.shown.pages <+: later.channel.shown.pages) ∧
      (execution.isComplete = true →
        execution.channel.shown.printed.out = producer.outLines ∧
        execution.channel.shown.printed.err = producer.errLines ∧
        execution.channel.shown.pages = producer.images ∧
        execution.outcome = some ⟨request.id, producer.status⟩)) ∧
    ∀ run : Nat → Execution,
      ∃ n, ¬ Execution.Step (producer.outcome request) (run n) (run (n + 1)) := by
  refine ⟨fun execution reaches => ?_, Execution.exists_not_step⟩
  have consistent :=
    (Execution.consistent_start producer (producer.outcome request)).reaches reaches
  refine ⟨consistent.exists_step, consistent.exists_complete, ?_, ?_⟩
  · intro later further
    have stays : View.images.shown execution.channel.shown <+:
        View.images.shown later.channel.shown := Execution.isPrefix_of_reaches further
    exact stays
  · intro complete
    obtain ⟨told, left⟩ := Execution.outcome_of_isComplete reaches complete
    have shown := Execution.shown_of_gone reaches left
    rw [producer.outcome_eq] at told
    exact ⟨congrArg (·.printed.out) shown, congrArg (·.printed.err) shown,
      congrArg Shown.pages shown, told⟩

/-- A page of one gray pixel. -/
def grayPage : Display.RawPage where
  format := ⟨Display.colorsGray ||| Display.depth8⟩
  width := 1
  height := 1
  raster := 1
  data := #[7]

/-- A script of more events than the queue holds, with a page that cannot be converted before one
that can. -/
def longScript : Scripted where
  script := .page { grayPage with data := #[] } :: .page grayPage :: .stderr "e" ::
    List.replicate 70 (.stdout "o")
  status := -3

/-- The page that cannot be converted is left out, and the other one is the first. -/
theorem delivers_longScript :
    ∃ last, Execution.Reaches ⟨5, -3⟩ (.start (.scripted longScript)) last ∧
      last.isComplete = true ∧ last.channel.shown.printed.out = List.replicate 70 "o" ∧
      last.channel.shown.printed.err = ["e"] ∧ last.channel.shown.pages.length = 1 ∧
      last.outcome = some ⟨5, -3⟩ := by
  let request : Request := { id := 5, args := [], input := "", output := .display }
  obtain ⟨last, reaches, complete⟩ :=
    ((Producer.scripted longScript).delivers request).1 _ (.refl _) |>.2.1
  obtain ⟨out, err, pages, told⟩ :=
    (((Producer.scripted longScript).delivers request).1 last reaches).2.2.2 complete
  refine ⟨last, reaches, complete, out.trans ?_, err.trans ?_, ?_, told⟩
  · decide +kernel
  · decide +kernel
  · rw [pages]
    decide +kernel

end EngineTokens.Engine

namespace EngineTokens

/-- A run of the program is any complete run of the child and its printer: it prints what that has
shown and ends with the code of the outcome that it reports. -/
theorem Plan.execute_eq_of_isComplete {spawn : Engine.Spawn} {files after : Files}
    {env : Environment} {plan : Plan} {child : Engine.Child} {outcome : Engine.Outcome}
    {last : Engine.Execution}
    (runs : Engine.runProcess spawn files env plan.executable plan.request =
      .ok (child, outcome, after))
    (reaches : Engine.Execution.Reaches outcome (.start (.process child)) last)
    (complete : last.isComplete = true) :
    plan.execute spawn files env =
      { files := after
        printed := last.channel.shown.printed
        result := .ok outcome.exitCode } := by
  obtain ⟨-, left⟩ := Engine.Execution.outcome_of_isComplete reaches complete
  have senders : (Engine.Producer.process child).senders.flatten =
      child.outEvents ++ child.errEvents := by
    simp [Engine.Producer.senders]
  rw [execute, runs, Engine.Execution.shown_of_gone reaches left,
    Engine.Producer.shown_eq_takeAll, senders]

end EngineTokens
