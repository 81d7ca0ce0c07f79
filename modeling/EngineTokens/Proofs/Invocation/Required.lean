import EngineTokens.Invocation.Reader
import EngineTokens.Proofs.Path.Raw

/-!
# Arguments that have to be given

A level that knows arguments by their position is accepted only with all of them. So what such an
argument makes of the choices holds of every command line that is accepted, as long as no other
argument undoes it. This is an invariant of the reading (`Reading.Upholds`): an argument that has
been judged has had its effect, and one that is pending is going to have it.

`document_of_read` draws the consequence for the document of a run, whose argument refuses the empty
path.
-/

set_option autoImplicit false

namespace EngineTokens.Invocation

/-! ## Arguments -/

/-- The changes of the choices that an effect can come to. -/
def Effect.Makes (effect : Effect) (set : Choices → Choices) : Prop :=
  match effect with
  | .turn own => set = own
  | .take read => ∃ value, read value = .ok set
  | .help | .version => False

/-- Giving the argument makes the choices fit if it has a certain name, and leaves them fit in any
case. -/
def Argument.Secures (name : String) (fit : Choices → Prop) (argument : Argument) : Prop :=
  ∀ set, argument.effect.Makes set → ∀ choices, argument.name = name ∨ fit choices →
    fit (set choices)

/-- All arguments of a level do. -/
def Level.Secures (name : String) (fit : Choices → Prop) (level : Level) : Prop :=
  ∀ argument, argument ∈ level.arguments ∨ argument ∈ level.positional →
    argument.Secures name fit

/-! ## The invariant of a reading -/

/-- The choices fit as soon as the argument has been judged, and the argument that is pending will
not undo this. -/
structure Reading.Upholds (name : String) (fit : Choices → Prop) (r : Reading) : Prop where
  fits : name ∈ r.given → fit r.choices
  secures : ∀ p, r.pending = some p → p.argument.Secures name fit

variable {name : String} {fit : Choices → Prop}

namespace Reading

variable {r next : Reading}

/-- Nothing has been given yet. -/
theorem upholds_start (level : Level) : ({ level } : Reading).Upholds name fit := by
  constructor
  · intro given
    cases given
  · intro p pending
    cases pending

/-- Judging an argument notes its name and has its effect, so the invariant is kept. -/
theorem upholds_judge {argument : Argument} {shown : String} {value : Option String}
    (holds : r.Upholds name fit) (secures : argument.Secures name fit)
    (judged : r.judge argument shown value = .ok next) : next.Upholds name fit := by
  -- whatever the effect, it is applied to the choices and the name is noted
  have step : ∀ set, argument.effect.Makes set →
      { r with given := r.given ++ [argument.name], choices := set r.choices }.Upholds name fit := by
    intro set makes
    refine ⟨?_, holds.secures⟩
    intro given
    apply secures set makes
    rcases List.mem_append.mp given with before | now
    · exact .inr (holds.fits before)
    · exact .inl (List.mem_singleton.mp now).symm
  unfold judge at judged
  cases effect : argument.effect with
  | help | version => simp [effect] at judged
  | turn set =>
    simp only [effect] at judged
    split at judged
    next => cases judged
    next =>
      cases judged
      exact step set (by rw [effect, Effect.Makes])
  | take read =>
    cases value with
    | none => simp [effect] at judged
    | some value =>
      simp only [effect] at judged
      split at judged
      next => cases judged
      next =>
        split at judged
        next set accepted =>
          cases judged
          exact step set (by rw [effect]; exact ⟨value, accepted⟩)
        next => cases judged

/-- What is pending is judged as it was given. -/
theorem upholds_settle (holds : r.Upholds name fit) (settled : r.settle = .ok next) :
    next.Upholds name fit := by
  unfold settle at settled
  split at settled
  next =>
    cases settled
    exact holds
  next p pending =>
    have idle : { r with pending := none }.Upholds name fit := by
      refine ⟨holds.fits, ?_⟩
      intro p absent
      cases absent
    exact upholds_judge idle (holds.secures p pending) settled

/-- What is given at once is judged after what is pending. -/
theorem upholds_give {argument : Argument} {value : Option String} (holds : r.Upholds name fit)
    (secures : argument.Secures name fit) (given : r.give argument value = .ok next) :
    next.Upholds name fit := by
  unfold give at given
  cases settled : r.settle with
  | error mistake => simp [settled, bind, Except.bind] at given
  | ok idle =>
    simp only [settled, bind, Except.bind] at given
    exact upholds_judge (upholds_settle holds settled) secures given

/-- An argument that waits for its value is pending from then on. -/
theorem upholds_begin {argument : Argument} (holds : r.Upholds name fit)
    (secures : argument.Secures name fit) (begun : r.begin argument = .ok next) :
    next.Upholds name fit := by
  unfold begin at begun
  cases settled : r.settle with
  | error mistake => simp [settled, bind, Except.bind] at begun
  | ok idle =>
    simp only [settled, bind, Except.bind, pure, Except.pure, Except.ok.injEq] at begun
    subst begun
    refine ⟨(upholds_settle holds settled).fits, ?_⟩
    intro p pending
    cases pending
    exact secures

/-- A further value leaves the pending argument as it is. -/
theorem upholds_fill (holds : r.Upholds name fit) (value : String) :
    (r.fill value).Upholds name fit := by
  refine ⟨holds.fits, ?_⟩
  intro p pending
  obtain ⟨before, waiting, rfl⟩ := Option.map_eq_some_iff.mp pending
  exact holds.secures before waiting

section

variable (secures : ∀ level : Level, level.Secures name fit)

include secures

/-- A word that names an argument gives it, or begins it. -/
theorem upholds_named {text : List Char} (holds : r.Upholds name fit)
    (named : r.named text = .ok next) : next.Upholds name fit := by
  unfold Reading.named at named
  dsimp only at named
  split at named
  next => cases named
  next argument found =>
    have sound := secures r.level argument (.inl (List.mem_of_find?_eq_some found))
    split at named
    next =>
      split at named
      next => exact upholds_begin holds sound named
      next => exact upholds_give holds sound named
    next =>
      split at named
      next => exact upholds_give holds sound named
      next => cases named

/-- The letters of a word are read one after another. -/
theorem upholds_lettered {letters : List Char} (holds : r.Upholds name fit)
    (lettered : r.lettered letters = .ok next) : next.Upholds name fit := by
  induction letters generalizing r with
  | nil =>
    cases lettered
    exact holds
  | cons c rest ih =>
    unfold Reading.lettered at lettered
    split at lettered
    next => cases lettered
    next argument found =>
      have sound := secures r.level argument (.inl (List.mem_of_find?_eq_some found))
      split at lettered
      next =>
        split at lettered
        next => exact upholds_begin holds sound lettered
        next => exact upholds_give holds sound lettered
        next => exact upholds_give holds sound lettered
      next =>
        split at lettered
        next between given => exact ih (upholds_give holds sound given) lettered
        next => cases lettered

/-- A word without a name begins the argument of its position. -/
theorem upholds_place {word : String} (holds : r.Upholds name fit)
    (placed : r.place word = .ok next) : next.Upholds name fit := by
  unfold place at placed
  split at placed
  next argument found =>
    have sound := secures r.level argument (.inr (List.mem_of_getElem? found))
    cases settled : r.settle with
    | error mistake => simp [settled, bind, Except.bind] at placed
    | ok idle =>
      simp only [settled, bind, Except.bind, pure, Except.pure, Except.ok.injEq] at placed
      subst placed
      refine ⟨(upholds_settle holds settled).fits, ?_⟩
      intro p pending
      cases pending
      exact sound
  next => split at placed <;> cases placed

/-- Every word of a command line keeps the invariant. -/
theorem upholds_take {word : String} (holds : r.Upholds name fit)
    (taken : r.take word = .ok next) : next.Upholds name fit := by
  unfold take at taken
  split at taken
  next => exact upholds_place secures holds taken
  next =>
    dsimp only at taken
    split at taken
    next =>
      cases taken
      exact upholds_fill holds word
    next =>
      split at taken
      next =>
        cases taken
        exact ⟨holds.fits, holds.secures⟩
      next => exact upholds_named secures holds taken
      next => exact upholds_lettered secures holds taken
      next =>
        split at taken
        next =>
          cases taken
          exact upholds_fill holds word
        next => exact upholds_place secures holds taken

end

/-- A level that is accepted has been given every argument that it knows by position. -/
theorem fit_of_finish {level : Level} {choices : Choices} (holds : r.Upholds name fit)
    (finished : r.finish = .ok (level, choices))
    (required : ∃ argument ∈ level.positional, argument.name = name) : fit choices := by
  unfold finish at finished
  cases settled : r.settle with
  | error mistake => simp [settled, bind, Except.bind] at finished
  | ok idle =>
    simp only [settled, bind, Except.bind, pure, Except.pure, throw, throwThe,
      MonadExceptOf.throw] at finished
    split at finished
    next => cases finished
    next =>
      split at finished
      next => cases finished
      next =>
        split at finished
        next => cases finished
        next complete =>
          cases finished
          obtain ⟨argument, positional, rfl⟩ := required
          apply (upholds_settle holds settled).fits
          simp only [Bool.not_eq_true', Bool.not_eq_false, List.isEmpty_iff,
            List.filter_eq_nil_iff] at complete
          exact List.contains_iff_mem.mp (complete argument positional)

end Reading

/-- The choices of a level that has been accepted fit, if the level knows the argument by position.
They come from the deepest level; a level above it can only add the settings file. -/
theorem fit_of_readLevel (secures : ∀ level : Level, level.Secures name fit)
    (blind : ∀ choices settings, fit choices → fit { choices with settings }) {r : Reading}
    {words : List String} {level : Level} {choices : Choices} (holds : r.Upholds name fit)
    (accepted : readLevel r words = .ok (level, choices))
    (required : ∃ argument ∈ level.positional, argument.name = name) : fit choices := by
  induction words generalizing r choices with
  | nil => exact Reading.fit_of_finish holds accepted required
  | cons word rest ih =>
    unfold readLevel at accepted
    split at accepted
    next =>
      split at accepted
      next => cases accepted
      next child _ =>
        cases below : readLevel { level := child } rest with
        | error mistake => simp [below, bind, Except.bind] at accepted
        | ok found =>
          cases settled : r.settle with
          | error mistake => simp [below, settled, bind, Except.bind] at accepted
          | ok idle =>
            simp only [below, settled, bind, Except.bind, pure, Except.pure, Except.ok.injEq,
              Prod.mk.injEq] at accepted
            obtain ⟨rfl, rfl⟩ := accepted
            exact blind found.2 _ (ih (Reading.upholds_start child) below)
    next =>
      split at accepted
      next between taken => exact ih (Reading.upholds_take secures holds taken) accepted
      next => cases accepted

/-! ## The document -/

/-- The effect leaves the document alone. -/
def Effect.KeepsInput (effect : Effect) : Prop :=
  ∀ set, effect.Makes set → ∀ choices : Choices, (set choices).input = choices.input

namespace Effect

/-- A change without a value leaves the document alone if it does so once carried out. -/
theorem keepsInput_turn {set : Choices → Choices}
    (keeps : ∀ choices, (set choices).input = choices.input) : (Effect.turn set).KeepsInput := by
  rintro _ rfl choices
  exact keeps choices

/-- A value leaves the document alone if everything does that it can be read as. -/
theorem keepsInput_take {α : Type} {read : String → Except Flaw (Choices → Choices)}
    (set : α → Choices → Choices)
    (reads : ∀ value made, read value = .ok made → ∃ a, made = set a)
    (keeps : ∀ a choices, (set a choices).input = choices.input) :
    (Effect.take read).KeepsInput := by
  rintro made ⟨value, accepted⟩ choices
  obtain ⟨a, rfl⟩ := reads value made accepted
  exact keeps a choices

end Effect

namespace Argument

variable {name placeholder : String}

/-- An argument without a value. -/
theorem keepsInput_switch {set : Choices → Choices}
    (keeps : ∀ choices, (set choices).input = choices.input) :
    (switch name set).effect.KeepsInput :=
  Effect.keepsInput_turn keeps

/-- An argument with any text. -/
theorem keepsInput_text {set : String → Choices → Choices}
    (keeps : ∀ value choices, (set value choices).input = choices.input) :
    (text name placeholder set).effect.KeepsInput := by
  apply Effect.keepsInput_take set _ keeps
  intro value made accepted
  exact ⟨value, (Except.ok.inj accepted).symm⟩

/-- A path that is accepted is not empty. -/
theorem eq_of_readPath {set : RawPath → Choices → Choices} {value : String}
    {made : Choices → Choices} (accepted : readPath set value = .ok made) :
    value ≠ "" ∧ made = set (Path.ofText value) := by
  unfold readPath at accepted
  split at accepted
  next => cases accepted
  next given => exact ⟨given, (Except.ok.inj accepted).symm⟩

/-- An argument with a path. -/
theorem keepsInput_path {set : RawPath → Choices → Choices}
    (keeps : ∀ value choices, (set value choices).input = choices.input) :
    (path name placeholder set).effect.KeepsInput := by
  apply Effect.keepsInput_take set _ keeps
  intro value made accepted
  exact ⟨Path.ofText value, (eq_of_readPath accepted).2⟩

/-- An argument with an integer. -/
theorem keepsInput_integer {low high : Int} {set : Int → Choices → Choices}
    (keeps : ∀ value choices, (set value choices).input = choices.input) :
    (integer name placeholder low high set).effect.KeepsInput := by
  apply Effect.keepsInput_take set _ keeps
  intro value made accepted
  split at accepted
  next number _ => exact ⟨number, (Except.ok.inj accepted).symm⟩
  next => cases accepted

/-- An argument with one of some words. -/
theorem keepsInput_readWord {α : Type} {words : List (String × α)} {accepted : List String}
    {set : α → Choices → Choices}
    (keeps : ∀ value choices, (set value choices).input = choices.input) :
    (Effect.take (readWord words accepted set)).KeepsInput := by
  apply Effect.keepsInput_take set _ keeps
  intro value made read
  unfold readWord at read
  split at read
  next choice _ => exact ⟨choice, (Except.ok.inj read).symm⟩
  next => cases read

/-- No argument of a model is the document or changes it. -/
theorem keepsInput_model : ∀ argument ∈ modelArguments, argument.effect.KeepsInput := by
  simp only [modelArguments, baseArguments, pdfArguments, conformanceArguments,
    List.forall_mem_append, List.forall_mem_cons, List.cons_append]
  repeat' apply And.intro
  all_goals first
    | exact keepsInput_switch fun _ => rfl
    | exact keepsInput_text fun _ _ => rfl
    | exact keepsInput_path fun _ _ => rfl
    | exact keepsInput_integer fun _ _ => rfl
    | exact keepsInput_readWord fun _ _ => rfl
    | exact List.forall_mem_nil _

/-- An argument that every level has does not change the document either. -/
theorem keepsInput_common : ∀ argument ∈ commonArguments, argument.effect.KeepsInput := by
  simp only [commonArguments, List.forall_mem_cons]
  refine ⟨keepsInput_path fun _ _ => rfl, ?_, List.forall_mem_nil _⟩
  intro set makes
  cases makes

end Argument

namespace Level

/-- No named argument changes the document. -/
theorem keepsInput_arguments (level : Level) :
    ∀ argument ∈ level.arguments, argument.effect.KeepsInput := by
  cases level with
  | program =>
    simp only [arguments, List.forall_mem_append, List.forall_mem_cons]
    refine ⟨Argument.keepsInput_common, ?_, List.forall_mem_nil _⟩
    intro set makes
    cases makes
  | args =>
    simp only [arguments, List.forall_mem_append, List.forall_mem_cons]
    exact ⟨⟨Argument.keepsInput_model, Argument.keepsInput_switch fun _ => rfl,
      Argument.keepsInput_switch fun _ => rfl, List.forall_mem_nil _⟩, Argument.keepsInput_common⟩
  | run =>
    simp only [arguments, List.forall_mem_append, List.forall_mem_cons]
    exact ⟨⟨Argument.keepsInput_model, Argument.keepsInput_path fun _ _ => rfl,
      Argument.keepsInput_switch fun _ => rfl, List.forall_mem_nil _⟩, Argument.keepsInput_common⟩
  | settings | settingsShow | settingsPath | settingsSet => exact Argument.keepsInput_common

/-- No named argument is called like the document. -/
theorem name_ne_input (level : Level) : ∀ argument ∈ level.arguments, argument.name ≠ "INPUT" := by
  cases level <;> decide +kernel

/-- The document is not empty once it has been given. -/
theorem secures_input (level : Level) :
    level.Secures "INPUT" fun choices => choices.input ≠ [] := by
  -- an argument that is not the document leaves it as it is
  have aside : ∀ argument : Argument, argument.name ≠ "INPUT" → argument.effect.KeepsInput →
      argument.Secures "INPUT" fun choices => choices.input ≠ [] := by
    intro argument unlike keeps set makes choices before
    rcases before with same | fits
    · exact absurd same unlike
    · rw [keeps set makes choices]
      exact fits
  intro argument listed
  rcases listed with named | positional
  · exact aside argument (level.name_ne_input argument named)
      (level.keepsInput_arguments argument named)
  · cases level with
    | run =>
      obtain rfl := List.mem_singleton.mp positional
      rintro set ⟨value, accepted⟩ choices -
      obtain ⟨given, rfl⟩ := Argument.eq_of_readPath accepted
      exact mt Path.ofText_eq_nil_iff.mp given
    | settingsSet =>
      rcases List.mem_cons.mp positional with rfl | positional
      · exact aside _ (by decide) (Argument.keepsInput_readWord fun _ _ => rfl)
      · obtain rfl := List.mem_singleton.mp positional
        exact aside _ (by decide) (Argument.keepsInput_text fun _ _ => rfl)
    | program | args | settings | settingsShow | settingsPath => cases positional

end Level

/-- A run that is read from a command line names its document. -/
theorem document_of_read {words : List String} {invocation : Invocation} {c : RunCommand}
    (accepted : read words = .ok invocation) (runs : invocation.command = .run c) :
    c.input ≠ [] := by
  unfold read at accepted
  cases found : readLevel { level := .program } words with
  | error mistake => simp [found, bind, Except.bind] at accepted
  | ok deepest =>
    obtain ⟨level, choices⟩ := deepest
    simp only [found, bind, Except.bind, pure, Except.pure] at accepted
    split at accepted
    next command named =>
      cases accepted
      cases runs
      cases level with
      | run =>
        cases named
        exact fit_of_readLevel Level.secures_input (fun _ _ fits => fits)
          (Reading.upholds_start .program) found ⟨_, List.mem_singleton_self _, rfl⟩
      | program | args | settings | settingsShow | settingsPath | settingsSet => cases named
    next => cases accepted

end EngineTokens.Invocation
